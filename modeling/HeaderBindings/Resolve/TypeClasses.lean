import HeaderBindings.Model.Signature
import HeaderBindings.Typing.Classify

/-!
# Classifying the types of the interface

Every argument and every result gets the class of its type, except for the receiver, for the raw
arguments of array groups, and for results that stand for the receiver.
-/

namespace HeaderBindings.Resolve

/-- An argument with the class of its type. -/
def classifyArgument (exposed : List String) (f : Function) (arg : Argument) :
    Argument × List Notice :=
  if arg.isInstance || (f.groupOf? arg.name).isSome then
    (arg, [])
  else
    let (typeClass, notices) := Typing.classify exposed arg.type
    ({ arg with typeClass, abiType := Typing.abiType arg.type typeClass .argument }, notices)

/-- The result of a function with the class of its type. -/
def classifyResult (exposed : List String) (f : Function) : Return × List Notice :=
  if f.returnsSelf then
    (f.result, [])
  else
    let (typeClass, notices) := Typing.classify exposed f.result.type
    ({ f.result with typeClass, abiType := Typing.abiType f.result.type typeClass .result }, notices)

/-- A function with the classes of its types. -/
def classifyFunction (exposed : List String) (f : Function) : Function × List Notice :=
  let args := f.args.map (classifyArgument exposed f)
  let (result, notices) := classifyResult exposed f
  ({ f with args := args.map Prod.fst, result }, args.flatMap Prod.snd ++ notices)

/-- A class with the classes of the types in its functions. -/
def classifyClass (exposed : List String) (c : Class) : Class × List Notice :=
  let functions := c.functions.map (classifyFunction exposed)
  ({ c with functions := functions.map Prod.fst }, functions.flatMap Prod.snd)

end HeaderBindings.Resolve
