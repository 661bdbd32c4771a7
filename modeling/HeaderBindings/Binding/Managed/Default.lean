import HeaderBindings.Binding.Managed.EnumNames
import HeaderBindings.Binding.Managed.Expression
import HeaderBindings.Text.Digit

/-!
# Default values

A default that C# accepts as a constant stays in the signature.  Any other one becomes a read-only
field, and the parameter becomes nullable.
-/

namespace HeaderBindings.Managed

/-- Whether a text is an exponent and a suffix, each of which may be absent. -/
def isNumberTail (text : List Char) : Bool :=
  match text with
  | c :: rest =>
    if c = 'e' ∨ c = 'E' then
      let digits :=
        match rest with
        | '-' :: digits => digits
        | '+' :: digits => digits
        | digits => digits
      digits.head?.any Char.isDigit && (digits.dropWhile Char.isDigit).all Text.isNumberSuffix
    else
      text.all Text.isNumberSuffix
  | [] => true

/--
Whether a text is the part of a number in base sixteen after `0x`.  The letter of an exponent without
a sign is a digit; before a sign it ends the digits.
-/
def isHexNumberTail (text : List Char) : Bool :=
  let digits := text.takeWhile Text.isHexDigit
  let rest := text.dropWhile Text.isHexDigit
  !digits.isEmpty && rest.all Text.isNumberSuffix ||
    match digits.reverse, rest with
    | letter :: _ :: _, sign :: _ =>
      (letter == 'e' || letter == 'E') && (sign == '-' || sign == '+') &&
        isNumberTail (letter :: rest)
    | _, _ => false

/-- Whether a text without a sign is a number literal. -/
def isUnsignedNumber : List Char → Bool
  | '0' :: 'x' :: rest => isHexNumberTail rest
  | '0' :: 'X' :: rest => isHexNumberTail rest
  | '.' :: rest => rest.head?.any Char.isDigit && isNumberTail (rest.dropWhile Char.isDigit)
  | text =>
    text.head?.any Char.isDigit &&
      match text.dropWhile Char.isDigit with
      | '.' :: rest => isNumberTail (rest.dropWhile Char.isDigit)
      | rest => isNumberTail rest

/-- Whether a text is a number literal. -/
def isNumberLiteral (text : String) : Bool :=
  match text.toList with
  | '-' :: rest => isUnsignedNumber rest
  | '+' :: rest => isUnsignedNumber rest
  | rest => isUnsignedNumber rest

/-- The C# literal of a number for a parameter of a type: the suffix goes, and single precision is
marked. -/
def numberLiteral (type text : String) : String :=
  let digits := Text.dropEndWhile Text.isNumberSuffix text.toList
  if digits.any fun c => c == 'x' || c == 'X' then
    .ofList (Text.dropEndWhile Text.isIntegerSuffix text.toList)
  else if type == "float" || type == "real_t" then
    .ofList (digits ++ ['f'])
  else
    .ofList digits

/-- A default value. -/
inductive Default where
  /-- A constant in the signature. -/
  | constant (text : String)
  /-- A field that holds the value of an expression. -/
  | hoisted (type value : String)
  deriving Repr, DecidableEq

/-- The C# name of an enum constant that is the default of an argument. -/
def enumDefault? (enums : EnumTable) (typeClass : TypeClass) (value : String) : Option String :=
  match typeClass with
  | .enumeration owner name _ => do
    let names ← enums.find? owner name
    let constant ← names.constant? (Text.afterLast value "::")
    pure (names.path ++ "." ++ constant)
  | _ => none

/-- The default value of an argument whose default is written as `value`. -/
def Default.ofText (enums : EnumTable) (arg : Argument) (value : String) : Default :=
  let type := visibleType arg.type arg.typeClass
  let value := Text.trim value
  if value == "nullptr" || value == "NULL" then
    .constant (if type == pointerType then "default" else "null")
  else if value == "true" || value == "false" then .constant value
  else if isNumberLiteral value then .constant (numberLiteral type value)
  else
    match enumDefault? enums arg.typeClass value with
    | some path => .constant path
    | none => .hoisted type (expression value)

end HeaderBindings.Managed
