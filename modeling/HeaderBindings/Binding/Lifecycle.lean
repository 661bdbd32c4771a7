import HeaderBindings.Model.Signature

/-!
# Lifecycle functions

The functions that make and drop the instances of a class.  They are exported beside the declared
functions, and the constructors and destructors of the bindings call them.
-/

namespace HeaderBindings

/-- A function of the lifecycle of a class. -/
def Class.lifecycleFunction
    (c : Class) (name : String) (args : List Argument) (result : Return) : Function :=
  { name, symbol := c.name ++ "_" ++ name, args, result, isPrivate := true }

/-- An opaque wrapper pointer as a result. -/
def Return.handle : Return :=
  { type := "void *", abiType := "void *" }

/-- The lifecycle functions of a class; a class with one global instance has none. -/
def Class.lifecycle (c : Class) : List Function :=
  if c.isSingleton then []
  else [
    c.lifecycleFunction "create" [] .handle,
    c.lifecycleFunction "create_nullptr" [] .handle,
    c.lifecycleFunction "destroy" [.receiver] .void]

/-- A class with its lifecycle functions after the declared ones. -/
def Class.withLifecycle (c : Class) : Class :=
  { c with functions := c.functions ++ c.lifecycle }

/-- Every class with its lifecycle functions. -/
def Api.withLifecycle (api : Api) : Api :=
  { api with classes := api.classes.map Class.withLifecycle }

/-- Whether a result is an object that the caller gets hold of. -/
def TypeClass.isHandle : TypeClass → Bool
  | .refCounted _ => true
  | .object .. => true
  | _ => false

/--
Whether a wrapper may leave out the call while calls are disabled.  Calls that manage an instance,
return their receiver, hand out an object or stand behind a property always go through.
-/
def Class.mayDisable (c : Class) (f : Function) : Bool :=
  !f.isPrivate && !f.returnsSelf && !f.result.typeClass.isHandle &&
    !c.properties.any fun property => property.getter == f.name || property.setter == f.name

end HeaderBindings
