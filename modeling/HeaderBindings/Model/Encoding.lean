import HeaderBindings.Json.Value
import HeaderBindings.Model.Api

/-!
# The interface as JSON

The names of the fields are part of the format.  Fields that hold their default are left out and
come back as the default; the documentation references are not written at all.  A record is written
as an object, and is also read from the array of its fields in the order of their declaration; a
record of several kinds begins with its kind there.
-/

namespace HeaderBindings

open Json (Value)

/-- The field of a flag, which is written only when it holds. -/
def flagField (name : String) (flag : Bool) : List (String × Value) :=
  if flag then [(name, .bool true)] else []

/-- The fields of a record as an object.  The last fields of an array may be missing, and then they
hold their defaults; an array with more items than there are fields is refused. -/
def record? (names : List String) : Value → Option Value
  | .object fields => some (.object fields)
  | .array items =>
    if items.length ≤ names.length then some (.ofFields (names.zip items)) else none
  | _ => none

/-- The kind of a record that has several. -/
def kind? : Value → Option String
  | .array items => items.head?.bind Value.text?
  | value => (value.field? "kind").bind Value.text?

/-- Reads an optional field, which holds its default when it is missing. -/
def defaulted? {α : Type} (value : Value) (name : String) (default : α)
    (read : Value → Option α) : Option α :=
  match value.field? name with
  | none => some default
  | some content => read content

/-- Reads a required field. -/
def required? {α : Type} (value : Value) (name : String) (read : Value → Option α) : Option α :=
  (value.field? name).bind read

namespace ClassKind

/-- The written form of a kind. -/
def encode : ClassKind → Value
  | .regular => .string "regular"
  | .singleton => .string "singleton"
  | .refcounted => .string "refcounted"

/-- The kind of a name. -/
def ofName? (name : String) : Option ClassKind :=
  if name == "regular" then some .regular
  else if name == "singleton" then some .singleton
  else if name == "refcounted" then some .refcounted
  else none

/-- Reads a kind: its name, or an object whose only field has that name and holds a null. -/
def decode? : Value → Option ClassKind
  | .string name => ofName? name
  | .object [(name, .null)] => ofName? name
  | _ => none

end ClassKind

namespace TypeClass

/-- The written form of a type class. -/
def encode : TypeClass → Value
  | .plain => .ofFields [("kind", .string "plain")]
  | .refCounted className =>
    .ofFields [("kind", .string "ref_counted"), ("class", .string className)]
  | .object className byReference =>
    .ofFields [("kind", .string "object"), ("class", .string className),
      ("is_ref", .bool byReference)]
  | .enumeration owner name underlying =>
    .ofFields [("kind", .string "enum"), ("owner", .string owner), ("name", .string name),
      ("underlying_type", .string underlying)]
  | .basicValue type => .ofFields [("kind", .string "basic_value"), ("ty", .string type)]

/-- Reads a type class. -/
def decode? (value : Value) : Option TypeClass := do
  let kind ← kind? value
  if kind == "plain" then do
    let _ ← record? ["kind"] value
    pure .plain
  else if kind == "ref_counted" then do
    let fields ← record? ["kind", "class"] value
    pure (.refCounted (← required? fields "class" Value.text?))
  else if kind == "object" then do
    let fields ← record? ["kind", "class", "is_ref"] value
    pure (.object (← required? fields "class" Value.text?) (← required? fields "is_ref" Value.bool?))
  else if kind == "enum" then do
    let fields ← record? ["kind", "owner", "name", "underlying_type"] value
    pure (.enumeration (← required? fields "owner" Value.text?)
      (← required? fields "name" Value.text?) (← required? fields "underlying_type" Value.text?))
  else if kind == "basic_value" then do
    let fields ← record? ["kind", "ty"] value
    pure (.basicValue (← required? fields "ty" Value.text?))
  else none

end TypeClass

namespace ArrayGroup

/-- The written form of an array group. -/
def encode : ArrayGroup → Value
  | .data name dataArg sizeArg elementType =>
    .ofFields [("kind", .string "data"), ("name", .string name), ("data_arg", .string dataArg),
      ("size_arg", .string sizeArg), ("element_type", .string elementType)]
  | .text name arg =>
    .ofFields [("kind", .string "string"), ("name", .string name), ("arg", .string arg)]

/-- Reads an array group. -/
def decode? (value : Value) : Option ArrayGroup := do
  let kind ← kind? value
  if kind == "data" then do
    let fields ← record? ["kind", "name", "data_arg", "size_arg", "element_type"] value
    pure (.data (← required? fields "name" Value.text?) (← required? fields "data_arg" Value.text?)
      (← required? fields "size_arg" Value.text?) (← required? fields "element_type" Value.text?))
  else if kind == "string" then do
    let fields ← record? ["kind", "name", "arg"] value
    pure (.text (← required? fields "name" Value.text?) (← required? fields "arg" Value.text?))
  else none

end ArrayGroup

namespace Argument

/-- The written form of an argument. -/
def encode (arg : Argument) : Value :=
  .ofFields ([("name", .string arg.name), ("type", .string arg.type),
    ("c_type", .string arg.abiType), ("class", arg.typeClass.encode)] ++
    arg.default.toList.map (fun text => ("default", .string text)) ++
    flagField "is_instance" arg.isInstance)

/-- Reads a default, for which a null stands when there is none. -/
def decodeDefault? : Value → Option (Option String)
  | .null => some none
  | value => value.text?.map some

/-- Reads an argument. -/
def decode? (value : Value) : Option Argument := do
  let fields ← record? ["name", "type", "c_type", "default", "is_instance", "class"] value
  pure {
    name := ← required? fields "name" Value.text?
    type := ← required? fields "type" Value.text?
    abiType := ← required? fields "c_type" Value.text?
    default := ← defaulted? fields "default" none decodeDefault?
    isInstance := ← defaulted? fields "is_instance" false Value.bool?
    typeClass := ← defaulted? fields "class" .plain TypeClass.decode? }

end Argument

namespace Return

/-- The written form of a result. -/
def encode (result : Return) : Value :=
  .ofFields [("type", .string result.type), ("c_type", .string result.abiType),
    ("class", result.typeClass.encode)]

/-- Reads a result. -/
def decode? (value : Value) : Option Return := do
  let fields ← record? ["type", "c_type", "class"] value
  pure {
    type := ← required? fields "type" Value.text?
    abiType := ← required? fields "c_type" Value.text?
    typeClass := ← defaulted? fields "class" .plain TypeClass.decode? }

end Return

namespace Function

/-- The written form of a function. -/
def encode (f : Function) : Value :=
  .ofFields ([("name", .string f.name), ("c_name", .string f.symbol), ("docs", .ofTexts f.docs),
    ("args", .array (f.args.map Argument.encode)), ("return", f.result.encode),
    ("self_return", .bool f.returnsSelf)] ++
    flagField "is_private" f.isPrivate ++
    (if f.arrayGroups.isEmpty then []
      else [("array_groups", .array (f.arrayGroups.map ArrayGroup.encode))]))

/-- Reads a function. -/
def decode? (value : Value) : Option Function := do
  let fields ← record?
    ["name", "c_name", "docs", "args", "return", "self_return", "is_private", "array_groups"] value
  pure {
    name := ← required? fields "name" Value.text?
    symbol := ← required? fields "c_name" Value.text?
    docs := ← required? fields "docs" Value.texts?
    args := ← required? fields "args" (Value.listOf? Argument.decode?)
    result := ← required? fields "return" Return.decode?
    returnsSelf := ← required? fields "self_return" Value.bool?
    isPrivate := ← defaulted? fields "is_private" false Value.bool?
    arrayGroups := ← defaulted? fields "array_groups" [] (Value.listOf? ArrayGroup.decode?) }

end Function

namespace EnumConstant

/-- The written form of a constant. -/
def encode (constant : EnumConstant) : Value :=
  .ofFields [("name", .string constant.name), ("value", .string constant.value)]

/-- Reads a constant. -/
def decode? (value : Value) : Option EnumConstant := do
  let fields ← record? ["name", "value"] value
  pure {
    name := ← required? fields "name" Value.text?
    value := ← required? fields "value" Value.text? }

end EnumConstant

namespace EnumType

/-- The written form of an enum. -/
def encode (e : EnumType) : Value :=
  .ofFields [("name", .string e.name), ("underlying_type", .string e.underlying),
    ("values", .array (e.constants.map EnumConstant.encode))]

/-- Reads an enum. -/
def decode? (value : Value) : Option EnumType := do
  let fields ← record? ["name", "underlying_type", "values"] value
  pure {
    name := ← required? fields "name" Value.text?
    underlying := ← required? fields "underlying_type" Value.text?
    constants := ← required? fields "values" (Value.listOf? EnumConstant.decode?) }

end EnumType

namespace Property

/-- The written form of a property. -/
def encode (property : Property) : Value :=
  .ofFields [("name", .string property.name), ("getter", .string property.getter),
    ("setter", .string property.setter), ("value_type", property.valueType.encode)]

/-- Reads a property. -/
def decode? (value : Value) : Option Property := do
  let fields ← record? ["name", "getter", "setter", "value_type"] value
  pure {
    name := ← required? fields "name" Value.text?
    getter := ← required? fields "getter" Value.text?
    setter := ← required? fields "setter" Value.text?
    valueType := ← required? fields "value_type" Return.decode? }

end Property

namespace Class

/-- The written form of a class. -/
def encode (c : Class) : Value :=
  .ofFields [("name", .string c.name), ("kind", c.kind.encode), ("docs", .ofTexts c.docs),
    ("enums", .array (c.enums.map EnumType.encode)),
    ("functions", .array (c.functions.map Function.encode)),
    ("properties", .array (c.properties.map Property.encode))]

/-- Reads a class. -/
def decode? (value : Value) : Option Class := do
  let fields ← record? ["name", "kind", "docs", "enums", "functions", "properties"] value
  pure {
    name := ← required? fields "name" Value.text?
    kind := ← required? fields "kind" ClassKind.decode?
    docs := ← required? fields "docs" Value.texts?
    enums := ← required? fields "enums" (Value.listOf? EnumType.decode?)
    functions := ← required? fields "functions" (Value.listOf? Function.decode?)
    properties := ← required? fields "properties" (Value.listOf? Property.decode?) }

end Class

namespace Api

/-- The written form of the classes. -/
def encode (api : Api) : Value :=
  .array (api.classes.map Class.encode)

/-- Reads the classes of an interface. -/
def decode? (value : Value) : Option Api :=
  (value.listOf? Class.decode?).map fun classes => { classes }

end Api

end HeaderBindings
