import HeaderBindings.Notice
import HeaderBindings.Model.Api

/-!
# Borrowed documentation

A method may borrow the documentation of another method of its class, exposed or not.
-/

namespace HeaderBindings.Resolve

/-- The documentation that a name of a class has at this point. -/
def docsOf? (functions : List Function) (declared : List (String × List String)) (name : String) :
    Option (List String) :=
  match functions.find? fun f => f.name == name with
  | some f => some f.docs
  | none => declared.lookup name

/--
Resolves the references of some functions of a class in order.  `settled` holds the functions
before them, whose references are resolved already.
-/
def borrowDocs (owner : Class) (settled : List Function) :
    List Function → List Function × List Notice
  | [] => (settled, [])
  | f :: rest =>
    match f.docsFrom with
    | none => borrowDocs owner (settled ++ [f]) rest
    | some target =>
      match docsOf? (settled ++ f :: rest) owner.declaredDocs target with
      | some docs => borrowDocs owner (settled ++ [{ f with docs }]) rest
      | none =>
        let (functions, notices) := borrowDocs owner (settled ++ [f]) rest
        (functions, .docsTargetMissing owner.name f.name target :: notices)

/-- A class with the references of its functions resolved. -/
def resolveDocs (owner : Class) : Class × List Notice :=
  let (functions, notices) := borrowDocs owner [] owner.functions
  ({ owner with functions }, notices)

end HeaderBindings.Resolve
