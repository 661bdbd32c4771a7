import HeaderBindings.Binding.Native.Method

/-!
# Container overloads

A function that takes raw pointers and counts gets an overload that takes containers and forwards
their contents.
-/

namespace HeaderBindings.Native

open Binding

/-- The element types with a packed array type of the engine. -/
def packedArrays : List (String × String) := [
  ("Vector2", "PackedVector2Array"),
  ("Vector3", "PackedVector3Array"),
  ("Vector4", "PackedVector4Array"),
  ("Color", "PackedColorArray"),
  ("float", "PackedFloat32Array"),
  ("double", "PackedFloat64Array"),
  ("int32_t", "PackedInt32Array"),
  ("int64_t", "PackedInt64Array"),
  ("uint8_t", "PackedByteArray")]

/-- A parameter of an overload, with the expressions that it forwards. -/
structure Forwarded where
  param : Param
  expressions : List String
  deriving Repr, DecidableEq

/-- The container parameter of an array group. -/
def Forwarded.ofGroup : ArrayGroup → Forwarded
  | .data name _ _ elementType =>
    let element := Text.trim (Text.dropHead elementType "const ")
    match packedArrays.lookup (Text.dropHead element "godot::") with
    | some packed =>
      { param := { declared := s!"const godot::{packed} &{name}", name }
        expressions := [s!"{name}.ptr()", s!"{name}.size()"] }
    | none =>
      { param := { declared := s!"const std::vector<{element}> &{name}", name }
        expressions := [s!"{name}.data()", s!"{name}.size()"] }
  | .text name _ =>
    { param := { declared := s!"const godot::String &{name}", name }
      expressions := [s!"{name}.utf8().get_data()"] }

/-- What a parameter of an overload forwards. -/
def Forwarded.ofParam : WrapperParam → Forwarded
  | .arg argument => ⟨.ofArgument argument, [argument.name]⟩
  | .group members => .ofGroup members

/-- An overload that takes containers. -/
structure Overload where
  isStatic : Bool
  resultType : String
  name : String
  forwarded : List Forwarded
  /-- The method that the call is forwarded to. -/
  target : String
  hasResult : Bool
  deriving Repr, DecidableEq

/-- The overload of a function that has array groups. -/
def Overload.ofFunction? (c : Class) (f : Function) : Option Overload :=
  f.wrapperName?.map fun name => {
    isStatic := c.isSingleton
    resultType := receivedType c f
    name
    forwarded := f.wrapperParams.map Forwarded.ofParam
    target := f.publicName
    hasResult := !f.returnsVoid || f.returnsSelf }

/-- The lines of an overload. -/
def Overload.lines (indent : String) (o : Overload) : List String :=
  let target := o.target
  let expressions := Text.joinWith ", " (o.forwarded.flatMap Forwarded.expressions)
  let call := s!"{target}({expressions});"
  [indent ++ headLine o.isStatic o.resultType o.name (o.forwarded.map Forwarded.param),
    indent ++ "\t" ++ (if o.hasResult then "return " ++ call else call),
    indent ++ "\x7d"]

end HeaderBindings.Native
