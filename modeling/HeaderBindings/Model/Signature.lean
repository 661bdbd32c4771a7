import HeaderBindings.Text.Slice
import HeaderBindings.Model.Api

/-!
# Views of a function

Its value arguments, its public names, and the parameters that a wrapper presents.
-/

namespace HeaderBindings

namespace Function

/-- The arguments besides the receiver. -/
def valueArgs (f : Function) : List Argument :=
  f.args.filter fun arg => !arg.isInstance

/-- Whether the function has no result. -/
def returnsVoid (f : Function) : Bool :=
  f.result.type == "void"

/-- The name without the suffix that marks a method returning its receiver. -/
def publicName (f : Function) : String :=
  (Text.dropTail? f.name "_selfreturn").getD f.name

/-- The name of the overload that takes containers. -/
def wrapperName? (f : Function) : Option String :=
  if f.arrayGroups.isEmpty then none else Text.dropTail? f.name "_c"

/-- The array group that a raw argument belongs to. -/
def groupOf? (f : Function) (arg : String) : Option ArrayGroup :=
  f.arrayGroups.find? fun group => group.owns arg

end Function

/-- A parameter of the overload that takes containers. -/
inductive WrapperParam where
  | arg (argument : Argument)
  | group (members : ArrayGroup)
  deriving Repr, DecidableEq

namespace WrapperParam

/-- The raw arguments that a parameter stands for. -/
def rawNames : WrapperParam → List String
  | .arg argument => [argument.name]
  | .group (.data _ dataArg sizeArg _) => [dataArg, sizeArg]
  | .group (.text _ own) => [own]

end WrapperParam

/-- The value arguments with every array group in the place of its first raw argument. -/
def Function.wrapperParams (f : Function) : List WrapperParam :=
  f.valueArgs.filterMap fun arg =>
    match f.groupOf? arg.name with
    | some group => if group.firstArg == arg.name then some (.group group) else none
    | none => some (.arg arg)

end HeaderBindings
