/-!
# Notices

What a run reports besides its result.  A notice is a fact about the headers; its wording and its
named fields are given here once.
-/

namespace HeaderBindings

/-- How serious a notice is. -/
inductive Severity where
  | warning
  | error
  deriving Repr, DecidableEq

/-- Something in the headers that is passed over, and that the user should know of. -/
inductive Notice where
  /-- An `#else` outside every conditional block. -/
  | elseWithoutIf
  /-- An `#endif` outside every conditional block. -/
  | endifWithoutIf
  /-- A class marker that is not followed by the name of a class. -/
  | classNameMissing (place line : String)
  /-- An enum marker before the first class marker. -/
  | enumOutsideClass (place : String)
  /-- A function marker before the first class marker. -/
  | functionOutsideClass (place line : String)
  /-- The end of a documentation comment without its start. -/
  | unopenedDocs (lineNumber : Nat)
  /-- A class that was declared before. -/
  | classRedeclared (className : String)
  /-- A documentation reference to a method that has no documentation. -/
  | docsTargetMissing (className function target : String)
  /-- A reference type whose target is not known. -/
  | unknownReference (type target : String)
  /-- The name of an enum without its class. -/
  | unqualifiedEnum (symbol type name : String)
  deriving Repr, DecidableEq

namespace Notice

/-- Only the loss of an enum type is an error. -/
def severity : Notice → Severity
  | .unqualifiedEnum .. => .error
  | _ => .warning

/-- The wording of a notice. -/
def message : Notice → String
  | .elseWithoutIf => "#else without a matching #if"
  | .endifWithoutIf => "#endif without a matching #if"
  | .classNameMissing .. => "class marker without `class <Name>`, skipping"
  | .enumOutsideClass _ => "enum marker outside of a class, skipping"
  | .functionOutsideClass .. => "function marker outside of a class, skipping"
  | .unopenedDocs _ => "`*/` without a matching `/**`, ignoring docs"
  | .classRedeclared _ => "class declared twice, keeping the last one"
  | .docsTargetMissing .. => "#docs_func target not found"
  | .unknownReference _ target =>
    s!"Ref<{target}> is neither a plugin class nor a godot:: class, passing it as is"
  | .unqualifiedEnum _ type name =>
    s!"enum type must be written as `<Class>::{name}`, it will be passed as `{type}`"

/-- The named fields of a notice. -/
def fields : Notice → List (String × String)
  | .elseWithoutIf => []
  | .endifWithoutIf => []
  | .classNameMissing place line => [("at", place), ("text", line)]
  | .enumOutsideClass place => [("at", place)]
  | .functionOutsideClass place line => [("at", place), ("text", line)]
  | .unopenedDocs lineNumber => [("line", toString lineNumber)]
  | .classRedeclared className => [("class", className)]
  | .docsTargetMissing className function target =>
    [("class", className), ("function", function), ("target", target)]
  | .unknownReference type _ => [("ty", type)]
  | .unqualifiedEnum symbol type _ => [("context", symbol), ("ty", type)]

end Notice

end HeaderBindings
