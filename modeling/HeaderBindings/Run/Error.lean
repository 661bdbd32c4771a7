import HeaderBindings.Binding.Managed.Source
import HeaderBindings.Extraction
import HeaderBindings.Files.Operation

/-!
# How a run fails

Every failure belongs to a stage, which decides the exit code.  Where a file is malformed, the words
of its reader end the message; they are a parameter here.
-/

namespace HeaderBindings

/-- Why the settings cannot be loaded. -/
inductive LoadError where
  | unreadable (path : Path) (error : FileError)
  | malformed (path : Path)
  deriving Repr, DecidableEq

/-- The wording of a file that cannot be read. -/
def unreadableMessage (path : Path) (error : FileError) : String :=
  let path := path.text
  s!"failed to read {path}: " ++ error.message

/-- The wording of a load error; `detail` says what is wrong with a malformed document. -/
def LoadError.message (detail : String) : LoadError → String
  | .unreadable path error => unreadableMessage path error
  | .malformed path =>
    let path := path.text
    s!"failed to parse {path}: {detail}"

/-- A stage of a run. -/
inductive Stage where
  | settings
  | extraction
  | exports
  | native
  | managed
  deriving Repr, DecidableEq

/-- The exit code of a failure in a stage. -/
def Stage.exitCode : Stage → Nat
  | .settings => 1
  | .extraction => 110
  | .exports => 111
  | .native => 112
  | .managed => 113

/-- What a stage does, in messages. -/
def Stage.activity : Stage → String
  | .settings => "configuration"
  | .extraction => "API extraction"
  | .exports => "C API generation"
  | .native => "C++ API generation"
  | .managed => "C# API generation"

/-- Why a stage fails. -/
inductive StageError where
  | unreadable (path : Path) (error : FileError)
  | noDirectory (path : Path) (error : FileError)
  | unwritable (path : Path) (error : FileError)
  | uncopied (source destination : Path) (error : FileError)
  | malformedManifest (path : Path)
  | extraction (error : ExtractionError)
  | missingMark (binding : String) (missing : Binding.MissingMark)
  | managed (failure : Managed.Failure)
  /-- The path of a template ends with no name to derive one from. -/
  | unnamedTemplate (path : Path)
  | unnamed (path : Path)
  deriving Repr, DecidableEq

/-- The wording of a stage error, if it has one; `detail` says what is wrong with a malformed
list of sources. -/
def StageError.message? (detail : String) : StageError → Option String
  | .unreadable path error => some (unreadableMessage path error)
  | .noDirectory path error =>
    let path := path.text
    some (s!"failed to create directory {path}: " ++ error.message)
  | .unwritable path error =>
    let path := path.text
    some (s!"failed to write {path}: " ++ error.message)
  | .uncopied source destination error =>
    let source := source.text
    let destination := destination.text
    some (s!"copying {source} to {destination}: " ++ error.message)
  | .malformedManifest path =>
    let path := path.text
    some s!"parsing source manifest {path}: {detail}"
  | .extraction error => some error.message
  | .missingMark binding missing => some (missing.messageIn binding)
  | .managed failure => failure.message?
  | .unnamedTemplate path =>
    let path := path.text
    some s!"template path {path} has no file name"
  | .unnamed path =>
    let path := path.text
    some s!"path {path} has no file name"

/-- A failure of a generation. -/
structure GenerationError where
  stage : Stage
  cause : StageError
  deriving Repr, DecidableEq

/-- The wording of a failure, if it has one. -/
def GenerationError.message? (detail : String) (error : GenerationError) : Option String :=
  (error.cause.message? detail).map fun cause => error.stage.activity ++ ": " ++ cause

/-- The exit code of a failure: that of its stage, or the one of a crash where the generation is
not defined. -/
def GenerationError.exitCode (error : GenerationError) : Nat :=
  match error.cause with
  | .managed (.fault _) => 101
  | _ => error.stage.exitCode

end HeaderBindings
