import HeaderBindings.Model.Api
import HeaderBindings.Typing.Classify

/-!
# Types of the managed wrapper

The C# spelling of the declared types, in the signatures that callers see and in the delegates that
cross the binary interface.
-/

namespace HeaderBindings.Managed

/-- The C# names of the types that are spelled differently there. -/
def renamedTypes : List (String × String) := [
  ("int8_t", "sbyte"),
  ("uint8_t", "byte"),
  ("int16_t", "short"),
  ("uint16_t", "ushort"),
  ("int32_t", "int"),
  ("int", "int"),
  ("uint32_t", "uint"),
  ("unsigned int", "uint"),
  ("int64_t", "long"),
  ("uint64_t", "ulong"),
  ("AABB", "Aabb"),
  ("Vector2i", "Vector2I"),
  ("Vector3i", "Vector3I"),
  ("Vector4i", "Vector4I"),
  ("Rect2i", "Rect2I"),
  ("Object", "GodotObject")]

/-- The pointer type. -/
def pointerType : String := "IntPtr"

/-- The C# spelling of a type; every pointer is an opaque one. -/
def typeName (type : String) : String :=
  let bare := Typing.bareType type
  if Text.endsWith bare "*" then pointerType
  else
    let name := Text.dropHead bare "godot::"
    (renamedTypes.lookup name).getD name

/-- The name of an enum from outside its class. -/
def enumPath (owner name : String) : String :=
  owner ++ "." ++ name

/-- The type in which a value crosses the binary interface. -/
def crossingType (type : String) : TypeClass → String
  | .refCounted _ => pointerType
  | .object .. => "ulong"
  | .enumeration _ _ underlying => typeName underlying
  | _ => typeName type

/-- The type in which callers see a value. -/
def visibleType (type : String) : TypeClass → String
  | .refCounted className => className
  | .object className _ => typeName className
  | .enumeration owner name _ => enumPath owner name
  | _ => typeName type

end HeaderBindings.Managed
