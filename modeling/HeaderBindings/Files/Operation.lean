import HeaderBindings.Files.Path

/-!
# File operations

What a run asks of the file system, as an interface: the command line answers with the disk, and a
tree of files in memory answers in statements about runs.
-/

namespace HeaderBindings

/-- Why a file operation fails. -/
inductive FileError where
  | notFound
  | exists_
  | notDirectory
  | isDirectory
  /-- A name of a path, or the path as a whole, is longer than the system allows. -/
  | nameTooLong
  /-- What is to be copied is no regular file. -/
  | notRegular
  /-- A path holds the character that ends names. -/
  | badName
  /-- Any other failure, in the words of the system. -/
  | other (description : String)
  deriving Repr, DecidableEq

/-- The wording of a file error. -/
def FileError.message : FileError → String
  | .notFound => "No such file or directory (os error 2)"
  | .exists_ => "File exists (os error 17)"
  | .notDirectory => "Not a directory (os error 20)"
  | .isDirectory => "Is a directory (os error 21)"
  | .nameTooLong => "File name too long (os error 36)"
  | .notRegular => "the source path is neither a regular file nor a symlink to a regular file"
  | .badName => "file name contained an unexpected NUL byte"
  | .other description => description

/-- A monad in which files can be read and changed. -/
class MonadFiles (m : Type → Type) where
  /-- The bytes of a file. -/
  readFile : Path → m (Except FileError (List UInt8))
  /-- Makes a file with the given bytes, or replaces the bytes of one. -/
  writeFile : Path → List UInt8 → m (Except FileError Unit)
  /-- Makes one directory. -/
  makeDirectory : Path → m (Except FileError Unit)
  /-- Whether a path names a directory. -/
  isDirectory : Path → m Bool
  /-- Whether a path names anything. -/
  isPresent : Path → m Bool
  /-- Copies a regular file; the target is emptied before the first byte is read. -/
  copyFile : Path → Path → m (Except FileError Unit)

namespace Path

/-- A path with the directories that hold it, from the inside out; `fuel` bounds their number. -/
def ancestorsWithin : Nat → Path → List Path
  | 0, path => [path]
  | fuel + 1, path =>
    match path.parent? with
    | some parent => path :: ancestorsWithin fuel parent
    | none => [path]

/-- A path with the directories that hold it, from the inside out. -/
def ancestors (path : Path) : List Path :=
  ancestorsWithin path.text.length path

end Path

section

variable {m : Type → Type} [Monad m] [MonadFiles m]

open MonadFiles

/-- Makes a directory that may be there already. -/
def ensureDirectory (path : Path) : m (Except FileError Unit) := do
  match ← makeDirectory path with
  | .ok () => pure (.ok ())
  | .error error => if ← isDirectory path then pure (.ok ()) else pure (.error error)

/-- Makes a directory and the directories that hold it, which are given from the inside out. -/
def ensureDirectoriesIn : List Path → m (Except FileError Unit)
  | [] => pure (.ok ())
  | path :: outer => do
    if path.text.isEmpty then pure (.ok ())
    else
      match ← makeDirectory path with
      | .ok () => pure (.ok ())
      | .error .notFound =>
        match ← ensureDirectoriesIn outer with
        | .ok () => ensureDirectory path
        | .error error => pure (.error error)
      | .error error => if ← isDirectory path then pure (.ok ()) else pure (.error error)

/-- Makes a directory and the directories that hold it, as far as they are missing. -/
def ensureDirectories (path : Path) : m (Except FileError Unit) :=
  ensureDirectoriesIn path.ancestors

end

end HeaderBindings
