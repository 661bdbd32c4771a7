import HeaderBindings.Text.WordRun
import HeaderBindings.Model.Api

/-!
# Markers

A marker at the start of a line exposes the declaration after it.  A marker is followed by a blank,
so that no marker is taken for the beginning of a longer one.
-/

namespace HeaderBindings.Header

/-- What the marker of a line exposes. -/
inductive Marker where
  | classOpen (kind : ClassKind)
  | enumeration
  | function
  deriving Repr, DecidableEq

/-- The markers in the order in which they are tried. -/
def markers : List (String × Marker) := [
  ("NAPI_CLASS_REF", .classOpen .refcounted),
  ("NAPI_CLASS_SINGLETON", .classOpen .singleton),
  ("NAPI_CLASS", .classOpen .regular),
  ("NAPI_ENUM", .enumeration),
  ("NAPI", .function)]

/-- The text after a marker and the blanks that follow it. -/
def afterMarker? (line spelling : String) : Option String :=
  match Text.dropHead? line spelling with
  | none => none
  | some rest => if rest.toList.head?.any Text.isBlank then some (Text.trimStart rest) else none

/-- The marker of a trimmed line, if it has one, and the text after it. -/
def readMarker (line : String) : Option Marker × String :=
  let found := markers.findSome? fun entry =>
    (afterMarker? line entry.1).map fun rest => (some entry.2, rest)
  found.getD (none, line)

/-- The class named after a class marker. -/
def declaredClass? (rest : String) : Option String :=
  match Text.dropHead? rest "class " with
  | some after => Text.firstWord? after
  | none =>
    match Text.dropHead? rest "struct " with
    | some after => Text.firstWord? after
    | none => none

end HeaderBindings.Header
