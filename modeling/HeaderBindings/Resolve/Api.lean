import HeaderBindings.Resolve.DocsReference
import HeaderBindings.Resolve.Enums
import HeaderBindings.Resolve.Properties
import HeaderBindings.Resolve.TypeClasses

/-!
# Resolving the interface

What needs all headers: borrowed documentation, the classes of the types, the enums and the
properties, in this order.
-/

namespace HeaderBindings.Resolve

/-- Applies a step to every class and gathers the notices in order. -/
def onClasses (step : Class → Class × List Notice) (api : Api) : Api × List Notice :=
  let classes := api.classes.map step
  ({ api with classes := classes.map Prod.fst }, classes.flatMap Prod.snd)

/-- The interface after resolution, as far as it got. -/
structure Resolution where
  api : Api
  notices : List Notice
  failure : Option DuplicateConstant
  deriving Repr, DecidableEq

/-- The names of the exposed classes. -/
def exposedNames (api : Api) : List String :=
  api.classes.map Class.name

/-- Resolves an interface.  A constant declared twice ends the resolution before the enums. -/
def resolve (api : Api) : Resolution :=
  let (documented, docNotices) := onClasses resolveDocs api
  let (classified, typeNotices) := onClasses (classifyClass (exposedNames api)) documented
  let notices := docNotices ++ typeNotices
  match indexEnums [] [] (declaredEnums classified.classes) with
  | .error duplicate => { api := classified, notices, failure := some duplicate }
  | .ok index =>
    let (attached, enumNotices) := onClasses (attachClass index) classified
    let complete :=
      { attached with classes := attached.classes.map fun c => { c with properties := properties c } }
    { api := complete, notices := notices ++ enumNotices, failure := none }

end HeaderBindings.Resolve
