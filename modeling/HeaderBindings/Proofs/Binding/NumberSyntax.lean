import HeaderBindings.Text.Digit
import Mathlib.Algebra.Order.Field.Rat

/-!
# Numbers in C++ and in C#

The number literals of C++ are given by their parts: the digits, which may have
single quotes between them, the marks of the base, of the fraction, of the
exponent and of the type, and the number that the parts denote.  A leading zero
makes the digits of an integer octal, and a decimal point needs digits on one of
its sides only.

The number literals of C# are given by the way they are read.  There a leading
zero has no meaning, a decimal point needs digits behind it, the digits may have
underscores between them, and fewer suffixes are known.  A number that is too
large for the type of its literal is none.

The number that a literal denotes is the exact one, before it is rounded to the
precision of its type.
-/

namespace HeaderBindings.Managed

/-! ## Literals of C++ -/

/-- Digits, with single quotes between some of them. -/
inductive Quoted (isDigit : Char → Bool) : List Char → Prop where
  | last {c : Char} (digit : isDigit c = true) : Quoted isDigit [c]
  | digit {c : Char} {text : List Char} (digit : isDigit c = true) (rest : Quoted isDigit text) :
      Quoted isDigit (c :: text)
  | quote {c : Char} {text : List Char} (digit : isDigit c = true) (rest : Quoted isDigit text) :
      Quoted isDigit (c :: '\'' :: text)

/-- Digits without the quotes between them. -/
def unquoted (text : List Char) : List Char :=
  text.filter (· != '\'')

/-- A digit in base two. -/
def isBinaryDigit (c : Char) : Bool :=
  c == '0' || c == '1'

/-- A digit in base eight. -/
def isOctalDigit (c : Char) : Bool :=
  '0' ≤ c && c ≤ '7'

/-- How the digits of an integer literal are read.  The letter of a prefix is small or capital. -/
inductive Radix where
  | binary (capital : Bool)
  | octal
  | decimal
  | hexadecimal (capital : Bool)
  deriving DecidableEq

namespace Radix

def base : Radix → Nat
  | binary _ => 2
  | octal => 8
  | decimal => 10
  | hexadecimal _ => 16

def lead : Radix → List Char
  | binary capital => ['0', if capital then 'B' else 'b']
  | octal => []
  | decimal => []
  | hexadecimal capital => ['0', if capital then 'X' else 'x']

def isDigit : Radix → Char → Bool
  | binary _ => isBinaryDigit
  | octal => isOctalDigit
  | decimal => Char.isDigit
  | hexadecimal _ => Text.isHexDigit

/-- Without a prefix, octal digits are told from decimal ones by their first digit. -/
def Starts : Radix → List Char → Prop
  | octal, digits => digits.head? = some '0'
  | decimal, digits => digits.head? ≠ some '0'
  | _, _ => True

end Radix

/-- What can stand in front of a number. -/
def signs : List (List Char) := [[], ['-'], ['+']]

/-- The part of a suffix that makes the type of an integer unsigned, where it is present. -/
def unsignedMarks : List (List Char) := [[], ['u'], ['U']]

/-- The part of a suffix that makes the type of an integer the largest one. -/
def longLongMarks : List (List Char) := [['l', 'l'], ['L', 'L']]

/-- The part of a suffix that gives an integer the type of the sizes. -/
def sizeTypeMarks : List (List Char) := [['z'], ['Z']]

/-- The part of a suffix that gives the size of the type of an integer, where it is present. -/
def sizeMarks : List (List Char) := [[], ['l'], ['L']] ++ longLongMarks ++ sizeTypeMarks

/-- An integer literal of C++. -/
structure DeclaredInteger where
  radix : Radix
  digits : List Char
  unsignedMark : List Char := []
  sizeMark : List Char := []
  sizeFirst : Bool := false
  isQuoted : Quoted radix.isDigit digits
  starts : radix.Starts digits
  isUnsignedMark : unsignedMark ∈ unsignedMarks
  isSizeMark : sizeMark ∈ sizeMarks
  fits : Text.numberOf radix.base (unquoted digits) <
    if radix = .decimal ∧ unsignedMark = [] then 2 ^ 63 else 2 ^ 64

namespace DeclaredInteger

variable (literal : DeclaredInteger)

def suffix : List Char :=
  if literal.sizeFirst then literal.sizeMark ++ literal.unsignedMark
  else literal.unsignedMark ++ literal.sizeMark

def chars : List Char :=
  literal.radix.lead ++ (literal.digits ++ literal.suffix)

def value : Nat :=
  Text.numberOf literal.radix.base (unquoted literal.digits)

end DeclaredInteger

/-- The exponent of a decimal literal of C++. -/
structure Exponent where
  capital : Bool := false
  sign : List Char := []
  digits : List Char
  isSign : sign ∈ signs
  isQuoted : Quoted Char.isDigit digits

namespace Exponent

variable (exponent : Exponent)

def chars : List Char :=
  (if exponent.capital then 'E' else 'e') :: (exponent.sign ++ exponent.digits)

def value : Int :=
  let number := Text.numberOf 10 (unquoted exponent.digits)
  if exponent.sign = ['-'] then -number else number

end Exponent

/-- The number with these digits in front of its decimal point and behind it. -/
def decimalNumber (whole fraction : List Char) (exponent : Int) : ℚ :=
  Text.numberOf 10 (whole ++ fraction) * 10 ^ (exponent - fraction.length)

/-- The least number that is not rounded to one of single precision. -/
def singleLimit : ℚ :=
  2 ^ 128 - 2 ^ 103

/-- The least number that is not rounded to one of double precision. -/
def doubleLimit : ℚ :=
  2 ^ 1024 - 2 ^ 970

/-- The least number that is too large for the type that the suffix of a decimal literal gives; the
size of the largest type is left open. -/
def declaredLimit? (suffix : List Char) : Option ℚ :=
  if suffix = [] then some doubleLimit
  else if suffix = ['f'] ∨ suffix = ['F'] then some singleLimit
  else none

/-- The suffixes of a decimal floating literal. -/
def realSuffixes : List (List Char) := [[], ['f'], ['F'], ['l'], ['L']]

/-- A decimal floating literal of C++. -/
structure DeclaredReal where
  whole : List Char
  /-- The digits behind the decimal point, if there is one. -/
  fraction : Option (List Char) := none
  exponent : Option Exponent := none
  suffix : List Char := []
  isWhole : whole = [] ∨ Quoted Char.isDigit whole
  isFraction : ∀ digits ∈ fraction, digits = [] ∨ Quoted Char.isDigit digits
  hasDigits : whole ≠ [] ∨ ∃ digits ∈ fraction, digits ≠ []
  isReal : fraction.isSome ∨ exponent.isSome
  isSuffix : suffix ∈ realSuffixes
  fits : ∀ limit ∈ declaredLimit? suffix,
    decimalNumber (unquoted whole) (unquoted (fraction.getD []))
      ((exponent.map Exponent.value).getD 0) < limit

namespace DeclaredReal

variable (literal : DeclaredReal)

/-- The literal without its suffix. -/
def core : List Char :=
  literal.whole ++ ((literal.fraction.map ('.' :: ·)).getD [] ++
    (literal.exponent.map Exponent.chars).getD [])

def chars : List Char :=
  literal.core ++ literal.suffix

def value : ℚ :=
  decimalNumber (unquoted literal.whole) (unquoted (literal.fraction.getD []))
    ((literal.exponent.map Exponent.value).getD 0)

end DeclaredReal

/-- A number literal of C++. -/
inductive DeclaredNumber where
  | integer (literal : DeclaredInteger)
  | real (literal : DeclaredReal)

namespace DeclaredNumber

def chars : DeclaredNumber → List Char
  | integer literal => literal.chars
  | real literal => literal.chars

def value : DeclaredNumber → ℚ
  | integer literal => literal.value
  | real literal => literal.value

end DeclaredNumber

/-! ## Literals of C# -/

/-- A digit, or an underscore between digits. -/
def isSpacedDigit (isDigit : Char → Bool) (c : Char) : Bool :=
  isDigit c || c == '_'

/-- The suffixes of an integer literal. -/
def integerSuffixes : List (List Char) := [
  [], ['u'], ['U'], ['l'], ['L'], ['u', 'l'], ['u', 'L'], ['U', 'l'], ['U', 'L'], ['l', 'u'],
  ['l', 'U'], ['L', 'u'], ['L', 'U']]

/-- The number of some digits and an integer suffix; the largest type has sixty-four bits. -/
def digitsNumber? (base : Nat) (isDigit : Char → Bool) (text : List Char) : Option ℚ :=
  let digits := text.takeWhile (isSpacedDigit isDigit)
  let suffix := text.dropWhile (isSpacedDigit isDigit)
  let number := Text.numberOf base (digits.filter isDigit)
  if digits.getLast?.any isDigit && integerSuffixes.contains suffix && number < 2 ^ 64 then
    some number
  else
    none

/-- The number of an integer literal. -/
def integerNumber? (text : List Char) : Option ℚ :=
  match text with
  | '0' :: mark :: rest =>
    if mark = 'x' ∨ mark = 'X' then digitsNumber? 16 Text.isHexDigit rest
    else if mark = 'b' ∨ mark = 'B' then digitsNumber? 2 isBinaryDigit rest
    else digitsNumber? 10 Char.isDigit text
  | c :: _ => if c.isDigit then digitsNumber? 10 Char.isDigit text else none
  | [] => none

/-- Whether digits with underscores start and end with a digit. -/
def isDigitSequence (text : List Char) : Bool :=
  text.head?.any Char.isDigit && text.getLast?.any Char.isDigit

/-- The digits behind a decimal point, if there is one, and the rest of a text. -/
def readFraction : List Char → Option (List Char) × List Char
  | '.' :: rest =>
    (some (rest.takeWhile (isSpacedDigit Char.isDigit)),
      rest.dropWhile (isSpacedDigit Char.isDigit))
  | rest => (none, rest)

/-- The digits of an exponent, and the rest of a text. -/
def readExponentDigits? (text : List Char) : Option (Nat × List Char) :=
  let digits := text.takeWhile (isSpacedDigit Char.isDigit)
  if isDigitSequence digits then
    some (Text.numberOf 10 (digits.filter Char.isDigit),
      text.dropWhile (isSpacedDigit Char.isDigit))
  else
    none

/-- Whether there is a minus sign, and the rest of a text. -/
def readSign : List Char → Bool × List Char
  | '-' :: rest => (true, rest)
  | '+' :: rest => (false, rest)
  | rest => (false, rest)

/-- The exponent, if there is one, and the rest of a text. -/
def readExponent? : List Char → Option (Int × List Char)
  | [] => some (0, [])
  | c :: rest =>
    if c = 'e' ∨ c = 'E' then
      let (negative, digits) := readSign rest
      (readExponentDigits? digits).map fun (number, rest) =>
        (if negative then -(number : Int) else number, rest)
    else
      some (0, c :: rest)

/-- The least number that is too large for the type that the suffix of a real literal gives. -/
def realLimit? : List Char → Option ℚ
  | [] | ['d'] | ['D'] => some doubleLimit
  | ['f'] | ['F'] => some singleLimit
  | ['m'] | ['M'] => some (2 ^ 96 - 1 / 2)
  | _ => none

/-- The number of a real literal.  Without a point, an exponent or a suffix a literal is none. -/
def realNumber? (text : List Char) : Option ℚ :=
  let whole := text.takeWhile (isSpacedDigit Char.isDigit)
  let (fraction, rest) := readFraction (text.dropWhile (isSpacedDigit Char.isDigit))
  let isMarked := fraction.isSome || !rest.isEmpty
  let isWhole := isDigitSequence whole || whole.isEmpty && fraction.isSome
  if isMarked && isWhole && fraction.all isDigitSequence then do
    let (exponent, suffix) ← readExponent? rest
    let limit ← realLimit? suffix
    let number := decimalNumber (whole.filter Char.isDigit)
      ((fraction.getD []).filter Char.isDigit) exponent
    if number < limit then some number else none
  else
    none

/-- The number that a literal of C# denotes. -/
def literalNumber? (text : List Char) : Option ℚ :=
  integerNumber? text <|> realNumber? text

end HeaderBindings.Managed
