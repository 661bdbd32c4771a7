/-!
# JSON values

An object keeps its fields in ascending order of their names, each name once.
-/

namespace HeaderBindings.Json

/-- A JSON value; a number is kept as it is written. -/
inductive Value where
  | null
  | bool (value : Bool)
  | number (digits : String)
  | string (text : String)
  | array (items : List Value)
  | object (fields : List (String × Value))
  deriving Repr, BEq

/-- Enters a field in its place; the last value of a name counts. -/
def insertField (name : String) (value : Value) : List (String × Value) → List (String × Value)
  | [] => [(name, value)]
  | field :: rest =>
    if name < field.1 then (name, value) :: field :: rest
    else if name = field.1 then (name, value) :: rest
    else field :: insertField name value rest

namespace Value

/-- The object with the given fields, in any order. -/
def ofFields (fields : List (String × Value)) : Value :=
  .object (fields.foldl (fun entered field => insertField field.1 field.2 entered) [])

/-- The array of some texts. -/
def ofTexts (texts : List String) : Value :=
  .array (texts.map .string)

/-- The value of a field of an object. -/
def field? : Value → String → Option Value
  | .object fields, name => fields.lookup name
  | _, _ => none

/-- The text of a string. -/
def text? : Value → Option String
  | .string text => some text
  | _ => none

/-- The value of a boolean. -/
def bool? : Value → Option Bool
  | .bool value => some value
  | _ => none

/-- The items of an array, each read by `read`. -/
def listOf? {α : Type} (read : Value → Option α) : Value → Option (List α)
  | .array items => items.mapM read
  | _ => none

/-- The texts of an array of strings. -/
def texts? (value : Value) : Option (List String) :=
  value.listOf? text?

end Value

end HeaderBindings.Json
