import HeaderBindings.Header.Comment
import HeaderBindings.Text.Digit
import HeaderBindings.Model.Api

/-!
# Enum declarations

`enum Name : type { A, B = 5, C }`.  A constant without a value continues the count from the last
constant whose value is an integer literal.
-/

namespace HeaderBindings.Header

/-- The types that an enum may have under it. -/
def underlyingTypes : List String :=
  ["int8_t", "uint8_t", "int16_t", "uint16_t", "int32_t", "uint32_t", "int64_t", "uint64_t", "int"]

/-- Why a declaration is no enum. -/
inductive EnumError where
  | keywordMissing (declaration : String)
  | bracesMissing (declaration : String)
  | bracesReversed (declaration : String)
  | underlyingMissing (declaration : String)
  | underlyingUnsupported (name underlying : String)
  deriving Repr, DecidableEq

/-- The wording of an enum error. -/
def EnumError.message : EnumError → String
  | .keywordMissing declaration =>
    s!"malformed enum `{declaration}`: expected `enum <Name> : <type> \x7b ... \x7d`"
  | .bracesMissing declaration => s!"malformed enum `{declaration}`: missing braces"
  | .bracesReversed declaration =>
    s!"malformed enum `{declaration}`: `\x7d` before `\x7b`"
  | .underlyingMissing declaration =>
    s!"malformed enum `{declaration}`: the underlying type is required"
  | .underlyingUnsupported name underlying =>
    let expected := Text.joinWith ", " underlyingTypes
    s!"enum `{name}` uses unsupported underlying type `{underlying}`, expected one of: {expected}"

/-- The magnitude of an integer literal without a sign: decimal or hexadecimal digits and a suffix. -/
def magnitude? (text : List Char) : Option Nat :=
  let read (base : Nat) (isDigit : Char → Bool) (text : List Char) : Option Nat :=
    let digits := text.takeWhile isDigit
    if !digits.isEmpty && (text.dropWhile isDigit).all Text.isIntegerSuffix then
      some (Text.numberOf base digits)
    else
      none
  match text with
  | '0' :: 'x' :: rest => read 16 Text.isHexDigit rest
  | '0' :: 'X' :: rest => read 16 Text.isHexDigit rest
  | _ => read 10 Char.isDigit text

/-- The least magnitude that does not fit into a signed integer of 128 bits. -/
def magnitudeLimit : Nat := 0x80000000000000000000000000000000

/-- The value of an integer literal; literals of 128 bits and more do not count. -/
def integerLiteral? (text : String) : Option Int :=
  match text.toList with
  | '-' :: rest =>
    match magnitude? (rest.dropWhile Text.isBlank) with
    | some n => if n < magnitudeLimit then some (-(Int.ofNat n)) else none
    | none => none
  | unsigned =>
    match magnitude? (unsigned.dropWhile Text.isBlank) with
    | some n => if n < magnitudeLimit then some (Int.ofNat n) else none
    | none => none

/-- The constants of a list of items; `last` is the value that the count continues from. -/
def readConstants (last : Int) : List String → List EnumConstant
  | [] => []
  | item :: rest =>
    match Text.splitFirst? item "=" with
    | some (name, value) =>
      let value := Text.trim value
      ⟨Text.trim name, value⟩ :: readConstants ((integerLiteral? value).getD last) rest
    | none => ⟨item, toString (last + 1)⟩ :: readConstants (last + 1) rest

/-- The items between commas that are not blank. -/
def enumItems (body : List Char) : List String :=
  (((body.splitOn ',').map String.ofList).map Text.trim).filter fun item => !item.isEmpty

/-- Reads an enum declaration, with its marker removed. -/
def parseEnum (declaration : String) : Except EnumError EnumType :=
  let declaration := dropBlockComments declaration
  match Text.dropHead? (Text.trim declaration) "enum " with
  | none => .error (.keywordMissing declaration)
  | some rest =>
    let rest := Text.dropHead (Text.trimStart rest) "class "
    match Text.cut? ['\x7b'] rest.toList, Text.cutLast? ['\x7d'] rest.toList with
    | some (head, tail), some (upToClose, _) =>
      if upToClose.length < head.length then
        .error (.bracesReversed declaration)
      else
        match Text.cut? [':'] head with
        | none => .error (.underlyingMissing declaration)
        | some (name, underlying) =>
          let name := Text.trim (.ofList name)
          let underlying := Text.trim (.ofList underlying)
          if underlyingTypes.contains underlying then
            let body := tail.take (upToClose.length - head.length - 1)
            .ok { name, underlying, constants := readConstants (-1) (enumItems body) }
          else
            .error (.underlyingUnsupported name underlying)
    | _, _ => .error (.bracesMissing declaration)

end HeaderBindings.Header
