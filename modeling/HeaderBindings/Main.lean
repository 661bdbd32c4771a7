import HeaderBindings.Run.Command

/-!
# The program

The command line on the disk: file operations are those of the system, sources go to standard
output, and notices and errors to standard error.
-/

namespace HeaderBindings

/-- A failure of the system as a file error. -/
def fileErrorOf (error : IO.Error) : FileError :=
  match error with
  | .noFileOrDirectory .. => .notFound
  | .alreadyExists .. => .exists_
  | .inappropriateType _ code _ => if code == 20 then .notDirectory else .isDirectory
  | .invalidArgument _ code _ => if code == 36 then .nameTooLong else .other (toString error)
  | other => .other (toString other)

/-- An operation of the system with its failure as a value. -/
def attempt {α : Type} (operation : IO α) : IO (Except FileError α) := do
  match ← operation.toBaseIO with
  | .ok value => pure (.ok value)
  | .error error => pure (.error (fileErrorOf error))

/-- The bytes of a file on the disk. -/
def readDisk (path : Path) : IO (Except FileError (List UInt8)) :=
  attempt do pure (← IO.FS.readBinFile path.text).toList

/-- Writes a file on the disk. -/
def writeDisk (path : Path) (bytes : List UInt8) : IO (Except FileError Unit) :=
  attempt (IO.FS.writeBinFile path.text (ByteArray.mk bytes.toArray))

/-- Copies a file on the disk. -/
def copyDisk (source destination : Path) : IO (Except FileError Unit) := do
  match ← readDisk source with
  | .error .isDirectory => pure (.error .notRegular)
  | .error error => pure (.error error)
  | .ok _ =>
    match ← writeDisk destination [] with
    | .error error => pure (.error error)
    | .ok () =>
      match ← readDisk source with
      | .error error => pure (.error error)
      | .ok bytes => writeDisk destination bytes

instance : MonadFiles IO where
  readFile := readDisk
  writeFile := writeDisk
  makeDirectory path := attempt (IO.FS.createDir path.text)
  isDirectory path := do
    match ← readDisk path with
    | .error .isDirectory => pure true
    | _ => pure false
  isPresent path := do
    match ← readDisk path with
    | .error .notFound => pure false
    | .error .notDirectory => pure false
    | .error .nameTooLong => pure false
    | _ => pure true
  copyFile := copyDisk

/-- The line of a notice. -/
def noticeLine (notice : Notice) : String :=
  let level := match notice.severity with
    | .warning => "WARN "
    | .error => "ERROR "
  let fields := notice.fields.map fun field => " " ++ field.1 ++ "=" ++ field.2
  level ++ notice.message ++ String.join fields

/-- What the readers of settings and of lists of sources say about malformed text. -/
def malformedDetail : String := "the text is malformed"

/-- Reports the outcome of a run. -/
def reportOutcome (outcome : RunOutcome) : IO Unit := do
  for notice in outcome.notices do
    IO.eprintln (noticeLine notice)
  if let some error := outcome.error then
    IO.eprintln ("ERROR " ++ (error.message? malformedDetail).getD "the model is not supported")
  for source in outcome.sources do
    IO.println source.text

end HeaderBindings

open HeaderBindings

def main (arguments : List String) : IO UInt32 := do
  match Invocation.ofArguments arguments with
  | .error error =>
    IO.eprintln ("error: " ++ error.message)
    pure UsageError.exitCode.toUInt32
  | .ok .help =>
    IO.print helpText
    pure 0
  | .ok .version =>
    IO.print versionText
    pure 0
  | .ok (.run command) => do
    let outcome ← command.run
    reportOutcome outcome
    pure outcome.exitCode.toUInt32
