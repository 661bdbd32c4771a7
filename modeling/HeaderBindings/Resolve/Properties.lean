import HeaderBindings.Model.Signature

/-!
# Properties

A setter `set_X` with one value argument and a getter `get_X` or `is_X` with none make a property.
-/

namespace HeaderBindings.Resolve

/-- Whether a function may be part of a property. -/
def isAccessor (f : Function) : Bool :=
  !f.isPrivate && !Text.endsWith f.name "_c"

/-- Whether a function reads the property of a name. -/
def isGetterOf (base : String) (f : Function) : Bool :=
  (f.name == "get_" ++ base || f.name == "is_" ++ base) && f.valueArgs.length == 0 &&
    !f.returnsVoid

/-- The property that a setter belongs to, if it is one and has a getter. -/
def propertyOf? (accessors : List Function) (setter : Function) : Option Property :=
  match Text.dropHead? setter.publicName "set_" with
  | none => none
  | some base =>
    if setter.valueArgs.length == 1 then
      (accessors.find? (isGetterOf base)).map fun getter =>
        { name := base, getter := getter.name, setter := setter.name, valueType := getter.result }
    else
      none

/-- The properties of a class, in the order of their setters. -/
def properties (c : Class) : List Property :=
  let accessors := c.functions.filter isAccessor
  accessors.filterMap (propertyOf? accessors)

end HeaderBindings.Resolve
