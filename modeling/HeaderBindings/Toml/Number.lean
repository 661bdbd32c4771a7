import HeaderBindings.Text.Digit

/-!
# TOML numbers

Integers and numbers with a fraction or an exponent.  Their values play no part in the settings,
but a number may be too large to be represented, and then its document is refused.

Integers are represented when they fit into 128 bits, with or without a sign.  Other numbers are
represented when rounding to 64 bits does not make them infinite.
-/

namespace HeaderBindings.Toml

/-- The size of a number in decimal notation: its digits as an integer, times a power of ten. -/
structure Decimal where
  digits : List Char
  exponent : Int
  deriving Repr, DecidableEq

/-- A number; of one with a fraction or an exponent the sign is not kept. -/
inductive Number where
  | integer (value : Int)
  | decimal (size : Decimal)
  /-- Infinity, and what is no number. -/
  | special
  deriving Repr, DecidableEq

/-- Whether a text is digits, with single underscores between them. -/
def isDigitGroup (isDigit : Char → Bool) : List Char → Bool
  | [] => false
  | [c] => isDigit c
  | c :: '_' :: rest => isDigit c && isDigitGroup isDigit rest
  | c :: d :: rest => isDigit c && isDigitGroup isDigit (d :: rest)

/-- The digits of a text without the underscores between them. -/
def plainDigits (text : List Char) : List Char :=
  text.filter (· != '_')

/-- A text without its sign. -/
def dropSign : List Char → List Char
  | '+' :: rest => rest
  | '-' :: rest => rest
  | text => text

/-- The number of a text with the sign that stands in front of it. -/
def applySign (text : List Char) (size : Nat) : Int :=
  if text.head? = some '-' then -Int.ofNat size else Int.ofNat size

/-- Whether a text without a sign is a decimal integer: digits without a zero in front. -/
def isDecimal : List Char → Bool
  | ['0'] => true
  | '0' :: _ => false
  | text => isDigitGroup Char.isDigit text

/-- Reads the digits of an integer in a base. -/
def digits? (base : Nat) (isDigit : Char → Bool) (text : List Char) : Option Int :=
  if isDigitGroup isDigit text then some (Text.numberOf base (plainDigits text)) else none

/-- Reads an integer; one in a base other than ten has no sign. -/
def integer? : List Char → Option Int
  | '0' :: 'x' :: digits => digits? 16 Text.isHexDigit digits
  | '0' :: 'o' :: digits => digits? 8 (fun c => '0' ≤ c && c ≤ '7') digits
  | '0' :: 'b' :: digits => digits? 2 (fun c => c == '0' || c == '1') digits
  | text =>
    let unsigned := dropSign text
    if isDecimal unsigned then some (applySign text (Text.numberOf 10 (plainDigits unsigned)))
    else none

/-- Whether a text is an exponent without its letter. -/
def isExponent (text : List Char) : Bool :=
  isDigitGroup Char.isDigit (dropSign text)

/-- A number before and after the letter of its exponent. -/
def splitExponent (text : List Char) : List Char × Option (List Char) :=
  let front := text.takeWhile fun c => c != 'e' && c != 'E'
  match text.dropWhile fun c => c != 'e' && c != 'E' with
  | [] => (front, none)
  | _ :: exponent => (front, some exponent)

/-- A number without an exponent before and after its point. -/
def splitFraction (text : List Char) : List Char × Option (List Char) :=
  let whole := text.takeWhile (· != '.')
  match text.dropWhile (· != '.') with
  | [] => (whole, none)
  | _ :: fraction => (whole, some fraction)

/-- Reads a number with a fraction, an exponent or both. -/
def decimal? (text : List Char) : Option Decimal :=
  let (front, exponent) := splitExponent (dropSign text)
  let (whole, fraction) := splitFraction front
  if isDecimal whole && fraction.all (isDigitGroup Char.isDigit) && exponent.all isExponent &&
      (fraction.isSome || exponent.isSome) then
    let places := plainDigits (fraction.getD [])
    let scale := exponent.getD []
    let power := applySign scale (Text.numberOf 10 (plainDigits (dropSign scale)))
    some { digits := plainDigits whole ++ places, exponent := power - places.length }
  else none

/-- Reads a number. -/
def number? (text : List Char) : Option Number :=
  match integer? text, decimal? text with
  | some value, _ => some (.integer value)
  | none, some size => some (.decimal size)
  | none, none =>
    if dropSign text = "inf".toList ∨ dropSign text = "nan".toList then some .special else none

namespace Decimal

/-- The least size that is rounded to infinity in 64 bits: half a unit of the last place above the
largest number. -/
def overflowBound : Nat := (Nat.pow 2 54 - 1) * Nat.pow 2 970

/-- Whether a size is rounded to infinity.  Powers of ten that settle the question by themselves
are not computed. -/
def overflows (size : Decimal) : Bool :=
  let value := Text.numberOf 10 size.digits
  match size.exponent with
  | .ofNat power => value != 0 && (308 < power || overflowBound ≤ value * Nat.pow 10 power)
  | .negSucc power =>
    power < size.digits.length && overflowBound * Nat.pow 10 (power + 1) ≤ value

end Decimal

namespace Number

/-- Whether a number is represented. -/
def isRepresented : Number → Bool
  | .integer value => -Int.pow 2 127 ≤ value && value < Int.pow 2 128
  | .decimal size => !size.overflows
  | .special => true

end Number

end HeaderBindings.Toml
