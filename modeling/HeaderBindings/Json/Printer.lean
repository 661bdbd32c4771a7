import HeaderBindings.Json.Value

/-!
# Writing JSON

Two layouts: one line with a blank after every comma and colon, in ASCII alone, which is what the
fingerprint is taken of; and an indented one, which keeps the characters beyond ASCII.
-/

namespace HeaderBindings.Json

/-- A digit in base sixteen, with small letters. -/
def hexDigit (n : Nat) : Char :=
  if n < 10 then Char.ofNat (n + 0x30) else Char.ofNat (n - 10 + 0x61)

/-- The four digits of a sixteen-bit unit. -/
def hexUnit (n : Nat) : List Char :=
  [hexDigit (n / 0x1000 % 16), hexDigit (n / 0x100 % 16), hexDigit (n / 16 % 16),
    hexDigit (n % 16)]

/-- The escape of a sixteen-bit unit by its number. -/
def unitEscape (n : Nat) : List Char :=
  '\\' :: 'u' :: hexUnit n

/-- The sixteen-bit units of a code point. -/
def utf16Units (point : Nat) : List Nat :=
  if point < 0x10000 then
    [point]
  else
    [0xD800 + (point - 0x10000) / 0x400, 0xDC00 + (point - 0x10000) % 0x400]

/-- Whether a layout keeps the characters beyond ASCII or escapes them. -/
inductive Charset where
  | unicode
  | ascii
  deriving Repr, DecidableEq

/-- A character inside a string. -/
def writeChar (charset : Charset) (c : Char) : List Char :=
  if c = '"' then ['\\', '"']
  else if c = '\\' then ['\\', '\\']
  else if c = '\n' then ['\\', 'n']
  else if c = '\r' then ['\\', 'r']
  else if c = '\t' then ['\\', 't']
  else if c = '\x08' then ['\\', 'b']
  else if c = '\x0C' then ['\\', 'f']
  else if c.toNat < 0x20 then unitEscape c.toNat
  else if c.toNat < 0x80 then [c]
  else
    match charset with
    | .unicode => [c]
    | .ascii => (utf16Units c.toNat).flatMap unitEscape

/-- A string in quotes. -/
def writeString (charset : Charset) (text : String) : List Char :=
  '"' :: text.toList.flatMap (writeChar charset) ++ ['"']

/-- The spelling of a boolean. -/
def writeBool (value : Bool) : List Char :=
  (if value then "true" else "false").toList

mutual

/-- A value on one line, in ASCII. -/
def writeLine : Value → List Char
  | .null => "null".toList
  | .bool value => writeBool value
  | .number digits => digits.toList
  | .string text => writeString .ascii text
  | .array items => '[' :: writeLineItems items ++ [']']
  | .object fields => '\x7b' :: writeLineFields fields ++ ['\x7d']

/-- Items with a comma and a blank between neighbours. -/
def writeLineItems : List Value → List Char
  | [] => []
  | [item] => writeLine item
  | item :: next :: rest => writeLine item ++ ',' :: ' ' :: writeLineItems (next :: rest)

/-- Fields with a comma and a blank between neighbours. -/
def writeLineFields : List (String × Value) → List Char
  | [] => []
  | [(name, value)] => writeString .ascii name ++ ':' :: ' ' :: writeLine value
  | (name, value) :: next :: rest =>
    writeString .ascii name ++ ':' :: ' ' :: writeLine value ++
      ',' :: ' ' :: writeLineFields (next :: rest)

end

/-- A line break and the indentation of a level. -/
def newLine (level : Nat) : List Char :=
  '\n' :: List.replicate (2 * level) ' '

mutual

/-- A value in indented layout, at a level of nesting. -/
def writeIndented (level : Nat) : Value → List Char
  | .null => "null".toList
  | .bool value => writeBool value
  | .number digits => digits.toList
  | .string text => writeString .unicode text
  | .array [] => ['[', ']']
  | .array (item :: rest) =>
    '[' :: writeIndentedItems (level + 1) (item :: rest) ++ newLine level ++ [']']
  | .object [] => ['\x7b', '\x7d']
  | .object (field :: rest) =>
    '\x7b' :: writeIndentedFields (level + 1) (field :: rest) ++ newLine level ++ ['\x7d']

/-- Items on lines of their own. -/
def writeIndentedItems (level : Nat) : List Value → List Char
  | [] => []
  | [item] => newLine level ++ writeIndented level item
  | item :: next :: rest =>
    newLine level ++ writeIndented level item ++ ',' :: writeIndentedItems level (next :: rest)

/-- Fields on lines of their own. -/
def writeIndentedFields (level : Nat) : List (String × Value) → List Char
  | [] => []
  | [(name, value)] =>
    newLine level ++ writeString .unicode name ++ ':' :: ' ' :: writeIndented level value
  | (name, value) :: next :: rest =>
    newLine level ++ writeString .unicode name ++ ':' :: ' ' :: writeIndented level value ++
      ',' :: writeIndentedFields level (next :: rest)

end

namespace Value

/-- The one-line layout in ASCII. -/
def line (value : Value) : String :=
  .ofList (writeLine value)

/-- The indented layout. -/
def indented (value : Value) : String :=
  .ofList (writeIndented 0 value)

end Value

end HeaderBindings.Json
