/-!
# Digits

Digits in bases up to sixteen, in ASCII alone, and the numbers that they denote.
-/

namespace HeaderBindings.Text

/-- A digit in base sixteen. -/
def isHexDigit (c : Char) : Bool :=
  c.isDigit || ('a' ≤ c && c ≤ 'f') || ('A' ≤ c && c ≤ 'F')

/-- The value of a digit in bases up to sixteen. -/
def digitValue (c : Char) : Nat :=
  if c.isDigit then c.toNat - '0'.toNat
  else if 'a' ≤ c ∧ c ≤ 'f' then c.toNat - 'a'.toNat + 10
  else c.toNat - 'A'.toNat + 10

/-- The number that a list of digits denotes. -/
def numberOf (base : Nat) (digits : List Char) : Nat :=
  digits.foldl (fun n c => n * base + digitValue c) 0

/-- A letter of the suffix of an integer literal. -/
def isIntegerSuffix (c : Char) : Bool :=
  c == 'u' || c == 'U' || c == 'l' || c == 'L'

/-- A letter of the suffix of a number literal. -/
def isNumberSuffix (c : Char) : Bool :=
  isIntegerSuffix c || c == 'f' || c == 'F'

end HeaderBindings.Text
