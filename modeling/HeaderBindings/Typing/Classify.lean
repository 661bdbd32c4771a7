import HeaderBindings.Notice
import HeaderBindings.Model.Api
import HeaderBindings.Text.WordRun

/-!
# Type classes

How a declared type crosses the binary interface, by its spelling and by the classes that are
exposed.  Enum types are told apart later, when all enums are known.
-/

namespace HeaderBindings.Typing

/-- The engine value types that cross by value. -/
def basicValueTypes : List String := [
  "bool", "int8_t", "uint8_t", "int16_t", "uint16_t", "int32_t", "uint32_t", "int64_t", "uint64_t",
  "int", "real_t", "float", "double", "Vector2", "Vector2i", "Vector3", "Vector3i", "Vector4",
  "Vector4i", "Quaternion", "Color", "Transform2D", "Transform3D", "Basis", "Plane", "AABB",
  "Rect2", "Rect2i", "Projection"]

/-- A type without its `const`, its reference signs and the blanks around it. -/
def bareType (type : String) : String :=
  let value := Text.trimEnd (.ofList (Text.dropEndWhile (· == '&') (Text.trim type).toList))
  Text.trim (Text.dropHead value "const ")

/-- A character of a qualified name. -/
def isQualifiedNameChar (c : Char) : Bool :=
  Text.isWord c || c == ':'

/-- The target of a counted reference type, `Ref<Target>`. -/
def referenceTarget? (bare : String) : Option String :=
  match Text.dropHead? (Text.dropHead bare "godot::") "Ref" with
  | none => none
  | some rest =>
    match rest.toList.dropWhile Text.isBlank with
    | '<' :: inside =>
      let inside := inside.dropWhile Text.isBlank
      let target := inside.takeWhile isQualifiedNameChar
      let close := (inside.dropWhile isQualifiedNameChar).dropWhile Text.isBlank
      if target.isEmpty || close != ['>'] then none else some (.ofList target)
    | _ => none

/-- The class of a declared type, given the names of the exposed classes. -/
def classify (exposed : List String) (type : String) : TypeClass × List Notice :=
  let bare := bareType type
  match referenceTarget? bare with
  | some target =>
    if Text.startsWith target "godot::" then (.object target true, [])
    else if exposed.contains target then (.refCounted target, [])
    else (.plain, [.unknownReference type target])
  | none =>
    match Text.dropTail? bare "*" with
    | some pointee =>
      let pointee := Text.dropHead (Text.trim pointee) "class "
      if Text.contains pointee "::" then (.object pointee false, []) else (.plain, [])
    | none =>
      let name := Text.dropHead bare "godot::"
      if basicValueTypes.contains name then (.basicValue name, []) else (.plain, [])

/-- A type without its reference signs and the blanks around it. -/
def withoutReference (type : String) : String :=
  Text.trim (Text.without type '&')

/-- Whether a type stands for an argument or for a result. -/
inductive Position where
  | argument
  | result
  deriving Repr, DecidableEq

/-- The type in which a declared type crosses the binary interface. -/
def abiType (type : String) (typeClass : TypeClass) (position : Position) : String :=
  match typeClass, position with
  | .refCounted _, _ => "void *"
  | .object .., _ => "const uint64_t"
  | .enumeration _ _ underlying, .result => underlying
  | .enumeration _ _ underlying, .argument => "const " ++ underlying
  | .plain, _ => withoutReference type
  | .basicValue _, _ => withoutReference type

end HeaderBindings.Typing
