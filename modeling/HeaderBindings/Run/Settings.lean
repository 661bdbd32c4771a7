import HeaderBindings.Files.Path
import HeaderBindings.Toml.Value

/-!
# Settings

What a project sets for a run, and how a document gives it.  Relative paths start at the directory
that holds the document.
-/

namespace HeaderBindings

/-- The settings of the exported side. -/
structure ExportsSettings where
  template : Path
  /-- The folder of the generated source, from the source folder. -/
  folder : Path := ⟨"gen"⟩
  deriving Repr, DecidableEq

/-- The settings of the native wrapper. -/
structure NativeSettings where
  template : Path
  folder : Path
  /-- The headers that are copied next to the generated one. -/
  sharedHeaders : List Path := []
  deriving Repr, DecidableEq

/-- The settings of the managed wrapper. -/
structure ManagedSettings where
  template : Path
  folder : Path
  deriving Repr, DecidableEq

/-- The settings of a run. -/
structure Settings where
  sourceFolder : Path := ⟨"src"⟩
  /-- The list of the sources, from the source folder. -/
  manifest : Path := ⟨"default_sources.json"⟩
  /-- The definitions given to the preprocessor. -/
  definitions : List String := []
  /-- The start of the names of the marks in the templates. -/
  marker : String := "GENERATOR_DD3D"
  /-- The name of the interface in the wrappers. -/
  apiName : String := "DD3D"
  /-- The engine classes to include. -/
  engineIncludes : List String := []
  /-- Default expressions of the headers and what takes their place. -/
  replacements : List (String × String) := []
  /-- The folder of the interface file. -/
  interfaceFolder : Path
  exports : ExportsSettings
  native : NativeSettings
  /-- Without these there is no managed wrapper. -/
  managed : Option ManagedSettings := none
  deriving Repr, DecidableEq

namespace Settings

/-- Whether a definition is given as a plain name. -/
def defines (settings : Settings) (name : String) : Bool :=
  settings.definitions.contains name

open Toml (Value Table)

/-- Reads a text. -/
def text? : Value → Option String
  | .string text => some text
  | _ => none

/-- Reads a path. -/
def path? (value : Value) : Option Path :=
  (text? value).map Path.mk

/-- Reads the items of an array. -/
def list? {α : Type} (read : Value → Option α) : Value → Option (List α)
  | .array _ items => items.mapM read
  | _ => none

/-- The key of the text of a date or time where a table of texts is due. -/
def momentKey : String := "$__toml_private_datetime"

/-- Reads a table of texts.  A date or time counts as the table that holds its text. -/
def textTable? : Value → Option (List (String × String))
  | .table _ fields => fields.mapM fun field => (text? field.2).map (field.1, ·)
  | .moment text => some [(momentKey, text)]
  | _ => none

/-- The fields of a record: a table, or an array of the values of the named fields in order.  Keys
of a table that name no field are passed over, but the numbers that they hold must be represented;
what an array holds after the last field does not count at all. -/
def record? (names : List String) : Value → Option (List (String × Value))
  | .table _ fields =>
    if fields.all fun field => names.contains field.1 || field.2.isRepresented then some fields
    else none
  | .array _ items => some (names.zip items)
  | _ => none

/-- Reads a field that must be there. -/
def required? {α : Type} (read : Value → Option α) (fields : List (String × Value))
    (name : String) : Option α :=
  (fields.lookup name).bind read

/-- Reads a field that may be missing. -/
def optional? {α : Type} (read : Value → Option α) (fields : List (String × Value))
    (name : String) (default : α) : Option α :=
  match fields.lookup name with
  | some value => read value
  | none => some default

/-- Reads the folder of the interface file. -/
def interfaceFolder? (value : Value) : Option Path := do
  let fields ← record? ["dir"] value
  required? path? fields "dir"

/-- Reads the settings of the exported side. -/
def exports? (value : Value) : Option ExportsSettings := do
  let fields ← record? ["template", "gen_dir"] value
  pure {
    template := ← required? path? fields "template"
    folder := ← optional? path? fields "gen_dir" ⟨"gen"⟩ }

/-- Reads the settings of the native wrapper. -/
def native? (value : Value) : Option NativeSettings := do
  let fields ← record? ["template", "output_dir", "shared_headers"] value
  pure {
    template := ← required? path? fields "template"
    folder := ← required? path? fields "output_dir"
    sharedHeaders := ← optional? (list? path?) fields "shared_headers" [] }

/-- Reads the settings of the managed wrapper. -/
def managed? (value : Value) : Option ManagedSettings := do
  let fields ← record? ["template", "output_dir"] value
  pure {
    template := ← required? path? fields "template"
    folder := ← required? path? fields "output_dir" }

/-- Reads the settings from a document. -/
def ofTable? (table : Table) : Option Settings := do
  let fields ← record?
    ["src_folder", "sources_manifest", "defines", "marker_prefix", "api_prefix", "godot_includes",
      "default_values", "output", "c_api", "cpp", "csharp"] table.value
  pure {
    sourceFolder := ← optional? path? fields "src_folder" ⟨"src"⟩
    manifest := ← optional? path? fields "sources_manifest" ⟨"default_sources.json"⟩
    definitions := ← optional? (list? text?) fields "defines" []
    marker := ← optional? text? fields "marker_prefix" "GENERATOR_DD3D"
    apiName := ← optional? text? fields "api_prefix" "DD3D"
    engineIncludes := ← optional? (list? text?) fields "godot_includes" []
    replacements := ← optional? textTable? fields "default_values" []
    interfaceFolder := ← required? interfaceFolder? fields "output"
    exports := ← required? exports? fields "c_api"
    native := ← required? native? fields "cpp"
    managed := ← optional? (fun value => (managed? value).map some) fields "csharp" none }

end Settings

end HeaderBindings
