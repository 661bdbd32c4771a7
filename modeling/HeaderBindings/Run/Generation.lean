import HeaderBindings.Binding.Exports
import HeaderBindings.Binding.Native.Header
import HeaderBindings.Model.Fingerprint
import HeaderBindings.Run.Error
import HeaderBindings.Run.Settings
import HeaderBindings.Text.Decode
import HeaderBindings.Toml.Reader

/-!
# Generation

From the settings to the files: the headers are read and the interface is extracted, then each
binding is rendered in full before the first of its files is written.
-/

namespace HeaderBindings

/-- The files of a complete generation. -/
structure Generated where
  /-- The source of the exported side, from the source folder. -/
  exportsSource : Path
  interfaceFile : Path
  nativeHeader : Path
  managedSource : Option Path
  fingerprint : String
  deriving Repr, DecidableEq

/-- The outcome of a generation, with the notices of the extraction. -/
structure Report where
  notices : List Notice
  result : Except GenerationError Generated

namespace Generation

section

variable {m : Type → Type} [Monad m] [MonadFiles m]

open MonadFiles

/-- An operation on files whose error is put into words. -/
def onFiles {α : Type} (operation : m (Except FileError α)) (describe : FileError → StageError) :
    ExceptT StageError m α :=
  ExceptT.mk do pure ((← operation).mapError describe)

/-- A value that may fail. -/
def ofExcept {α : Type} (value : Except StageError α) : ExceptT StageError m α :=
  ExceptT.mk (pure value)

/-- The text of a file. -/
def readText (path : Path) : ExceptT StageError m String := do
  let bytes ← onFiles (readFile path) (.unreadable path)
  pure (Text.decode bytes)

/-- Writes a text into a file, in a directory that is made if it is missing. -/
def writeText (path : Path) (text : String) : ExceptT StageError m Unit := do
  match path.parent? with
  | some parent => onFiles (ensureDirectories parent) (.noDirectory parent)
  | none => pure ()
  onFiles (writeFile path text.toUTF8.toList) (.unwritable path)

/-- The header of a source: sources with the extension `cpp` have theirs beside them. -/
def headerOf (sourceFolder source : Path) : Path :=
  sourceFolder.join (if source.extension? == some "cpp" then source.withExtension "h" else source)

/-- The headers of some sources, as far as they are there. -/
def presentHeaders (sourceFolder : Path) (sources : List String) : m (List Path) :=
  (sources.map fun source => headerOf sourceFolder ⟨source⟩).filterM isPresent

/-- The sources that a list of sources names. -/
def sourcesOf? (text : String) : Option (List String) :=
  (Json.parse? text).bind Json.Value.texts?

/-- The headers of a project. -/
def headers (sourceFolder manifest : Path) : ExceptT StageError m (List Path) := do
  let path := sourceFolder.join manifest
  match sourcesOf? (← readText path) with
  | some sources => ExceptT.lift (presentHeaders sourceFolder sources)
  | none => throw (.malformedManifest path)

/-- The sources of some headers, up to the first one that cannot be read. -/
def readHeaders : List Path → m (List HeaderSource × Option StageError)
  | [] => pure ([], none)
  | path :: rest => do
    match ← (readText path).run with
    | .error error => pure ([], some error)
    | .ok text => do
      let (sources, failure) ← readHeaders rest
      pure ({ name := path.text, text } :: sources, failure)

/-- The interface that some headers declare, with the notices of the extraction.  A header that
cannot be read counts after the headers before it. -/
def extractInterface (options : Header.Options) (paths : List Path) :
    m (List Notice × Except StageError Api) := do
  let (sources, failure) ← readHeaders paths
  match failure with
  | none =>
    let extraction := extract options sources
    pure (extraction.notices, extraction.result.mapError .extraction)
  | some error =>
    let gathered := gather options {} sources
    pure (gathered.notices,
      .error (gathered.failure.elim error fun failure => .extraction (.scan failure)))

/-- The name of the file that is generated from a template. -/
def generatedName (template : Path) : Except StageError String :=
  match template.fileName? with
  | none => .error (.unnamedTemplate template)
  | some name =>
    match Path.splitName name with
    | (stem, some extension) => .ok (stem ++ ".gen." ++ extension)
    | (stem, none) => .ok (stem ++ ".gen")

/-- The file name of a path. -/
def nameOf (path : Path) : Except StageError Path :=
  match path.fileName? with
  | some name => .ok ⟨name⟩
  | none => .error (.unnamed path)

/-- Writes the exported side and the interface file. -/
def writeExports (settings : Settings) (base sourceFolder : Path) (headers : List Path)
    (api : Api) : ExceptT StageError m (Path × Path) := do
  let templatePath := base.join settings.exports.template
  let template ← readText templatePath
  let options : Exports.Options := {
    template
    marker := settings.marker
    headers := (headers.filterMap fun header => header.relativeTo? sourceFolder).map Path.text
    engineIncludes := settings.engineIncludes }
  let source ← ofExcept ((Exports.generate api options).mapError (.missingMark Exports.bindingName))
  let name ← ofExcept (generatedName templatePath)
  let relative := settings.exports.folder.join ⟨name⟩
  writeText (sourceFolder.join relative) source
  let interfaceFile := (base.join settings.interfaceFolder).join ⟨"api.json"⟩
  writeText interfaceFile api.document
  pure (relative, interfaceFile)

/-- Copies a shared header next to the generated one. -/
def copyShared (base folder shared : Path) : ExceptT StageError m Unit := do
  let source := base.join shared
  let destination := folder.join (← ofExcept (nameOf source))
  onFiles (copyFile source destination) (.uncopied source destination)

/-- Writes the native wrapper and copies the shared headers. -/
def writeNative (settings : Settings) (base : Path) (api : Api) : ExceptT StageError m Path := do
  let templatePath := base.join settings.native.template
  let template ← readText templatePath
  let options : Native.Options := {
    template
    marker := settings.marker
    apiName := settings.apiName
    engineIncludes := settings.engineIncludes }
  let header ← ofExcept ((Native.generate api options).mapError (.missingMark Native.bindingName))
  let folder := base.join settings.native.folder
  let path := folder.join (← ofExcept (nameOf templatePath))
  writeText path header
  settings.native.sharedHeaders.forM (copyShared base folder)
  pure path

/-- The definition that gives the real type double precision. -/
def doublePrecision : String := "REAL_T_IS_DOUBLE"

/-- Writes the managed wrapper. -/
def writeManaged (settings : Settings) (managed : ManagedSettings) (base : Path) (api : Api) :
    ExceptT StageError m Path := do
  let templatePath := base.join managed.template
  let template ← readText templatePath
  let options : Managed.Options := {
    template
    marker := settings.marker
    apiName := settings.apiName
    isDouble := settings.defines doublePrecision }
  let source ← ofExcept ((Managed.generate api options).mapError .managed)
  let path := (base.join managed.folder).join (← ofExcept (nameOf templatePath))
  writeText path source
  pure path

/-- What a stage does, with its failures. -/
def inStage {α : Type} (stage : Stage) (activity : ExceptT StageError m α) :
    ExceptT GenerationError m α :=
  ExceptT.mk do pure ((← activity.run).mapError fun cause => { stage, cause })

/-- Writes the files of all bindings. -/
def writeBindings (settings : Settings) (base sourceFolder : Path) (headers : List Path)
    (api : Api) : ExceptT GenerationError m Generated := do
  let (exportsSource, interfaceFile) ←
    inStage .exports (writeExports settings base sourceFolder headers api)
  let nativeHeader ← inStage .native (writeNative settings base api)
  let managedSource ←
    match settings.managed with
    | some managed => some <$> inStage .managed (writeManaged settings managed base api)
    | none => pure none
  pure { exportsSource, interfaceFile, nativeHeader, managedSource, fingerprint := api.fingerprint }

end

end Generation

section

variable {m : Type → Type} [Monad m] [MonadFiles m]

open Generation

/-- Generates all files of a project whose paths start at `base`. -/
def generate (settings : Settings) (base : Path) : m Report := do
  let sourceFolder := base.join settings.sourceFolder
  match ← (headers sourceFolder settings.manifest).run with
  | .error cause => pure { notices := [], result := .error { stage := .extraction, cause } }
  | .ok paths => do
    let options : Header.Options :=
      { definitions := settings.definitions, replacements := settings.replacements }
    let (notices, extracted) ← extractInterface options paths
    match extracted with
    | .error cause => pure { notices, result := .error { stage := .extraction, cause } }
    | .ok api => do
      let result ← (writeBindings settings base sourceFolder paths api).run
      pure { notices, result }

/-- Loads the settings of a project. -/
def loadSettings (path : Path) : m (Except LoadError Settings) := do
  match ← MonadFiles.readFile path with
  | .error error => pure (.error (.unreadable path error))
  | .ok bytes =>
    match (Toml.parse? (Text.decode bytes)).bind Settings.ofTable? with
    | some settings => pure (.ok settings)
    | none => pure (.error (.malformed path))

/-- The directory that the paths of settings start at. -/
def settingsBase (path : Path) : Path :=
  path.parent?.getD ⟨"."⟩

end

end HeaderBindings
