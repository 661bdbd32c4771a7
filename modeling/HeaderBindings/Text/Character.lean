import HeaderBindings.Text.Property.Ranges
import HeaderBindings.Text.Property.Alphabetic
import HeaderBindings.Text.Property.Number
import HeaderBindings.Text.Property.LetterCase
import HeaderBindings.Text.Property.Word

/-!
# Character classes and letter case

The classes that the header recognisers and the naming rules rest on: blanks, word characters,
alphanumeric characters, and the two letter cases with their maps.  Every class decides an ASCII
character by its own short rule and looks the others up in a property table.

Recognisers and naming rules follow two versions of the Unicode standard.  So a character that came
with the later one can be alphanumeric without being a word character.
-/

namespace HeaderBindings.Text

/-- A blank: a character with the property White_Space. -/
def isBlank (c : Char) : Bool :=
  let n := c.toNat
  (9 ≤ n && n ≤ 13) || n == 0x20 || n == 0x85 || n == 0xA0 || n == 0x1680 ||
    (0x2000 ≤ n && n ≤ 0x200A) || n == 0x2028 || n == 0x2029 || n == 0x202F ||
    n == 0x205F || n == 0x3000

/--
A word character: a letter, a mark, a decimal digit, connector punctuation or a join control.
Identifiers and type names are runs of word characters.
-/
def isWord (c : Char) : Bool :=
  let n := c.toNat
  if n < 0x80 then c.isAlphanum || c == '_' else inRanges wordRanges n

/-- An alphanumeric character: a letter or a number of any kind. -/
def isAlphanumeric (c : Char) : Bool :=
  let n := c.toNat
  if n < 0x80 then c.isAlphanum else inRanges alphabeticRanges n || inRanges numberRanges n

/-- A lower-case character. -/
def isLowercase (c : Char) : Bool :=
  let n := c.toNat
  if n < 0x80 then c.isLower else inStrides lowercaseStrides n

/-- An upper-case character. -/
def isUppercase (c : Char) : Bool :=
  let n := c.toNat
  if n < 0x80 then c.isUpper else inStrides uppercaseStrides n

/-- A cased character: lower, upper or title case. -/
def isCased (c : Char) : Bool :=
  isLowercase c || isUppercase c || inRanges titlecaseRanges c.toNat

/-- A character that is passed over in the search for the letters next to a final sigma. -/
def isCaseIgnorable (c : Char) : Bool :=
  let n := c.toNat
  if n < 0x80 then
    c == '\x27' || c == '.' || c == ':' || c == '^' || c == '\x60'
  else
    inRanges caseIgnorableRanges n

/-- The image of a code point under a table of distances, if the table lists it. -/
def atDistance? (table : List (Nat × Nat × Nat × Int)) (point : Nat) : Option Nat :=
  (table.find? fun entry =>
    entry.1 ≤ point && point ≤ entry.2.1 && (point - entry.1) % entry.2.2.1 == 0).map
      fun entry => (Int.ofNat point + entry.2.2.2).toNat

/-- The capital form of a character, which may take several characters (`ß` becomes `SS`). -/
def capital (c : Char) : List Char :=
  let n := c.toNat
  if n < 0x80 then
    [c.toUpper]
  else
    match capitalSequences.lookup n with
    | some points => points.map Char.ofNat
    | none => [((atDistance? capitalDistances n).map Char.ofNat).getD c]

/-- The small form of a character; the dotted capital `İ` alone takes two characters. -/
def small (c : Char) : List Char :=
  let n := c.toNat
  if n < 0x80 then
    [c.toLower]
  else if n == 0x130 then
    ['i', Char.ofNat 0x307]
  else
    [((atDistance? smallDistances n).map Char.ofNat).getD c]

/-- Every blank of the core library's class is a blank. -/
theorem isBlank_of_isWhitespace (c : Char) (h : c.isWhitespace = true) : isBlank c = true := by
  simp only [Char.isWhitespace, Bool.or_eq_true, decide_eq_true_eq] at h
  rcases h with ((rfl | rfl) | rfl) | rfl <;> decide

end HeaderBindings.Text
