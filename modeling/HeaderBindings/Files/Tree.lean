import HeaderBindings.Files.Operation

/-!
# Trees of files

A file system in memory: regular files and directories by their names from the root, without links
or permissions.
-/

namespace HeaderBindings

/-- What a location holds. -/
inductive Node where
  | file (bytes : List UInt8)
  | directory
  deriving Repr, DecidableEq

/-- The names from the root to a file or directory. -/
abbrev Location := List (List Char)

/-- A file system; relative paths start at the working directory. -/
structure FileTree where
  workingDirectory : Location
  nodes : List (Location × Node)
  deriving Repr, DecidableEq

namespace FileTree

/-- What a location holds; the root is always a directory. -/
def node? (tree : FileTree) (location : Location) : Option Node :=
  if location.isEmpty then some .directory else tree.nodes.lookup location

/-- Puts a node at a location. -/
def setNode (tree : FileTree) (location : Location) (node : Node) : FileTree :=
  { tree with nodes := (location, node) :: tree.nodes.filter fun entry => entry.1 != location }

/-- The longest name of a file or directory, in bytes. -/
def maxNameLength : Nat := 255

/-- The longest path that the file system takes, in bytes. -/
def maxPathLength : Nat := 4095

/-- The location of a name in a directory. -/
def child (location : Location) (name : List Char) : Except FileError Location :=
  if maxNameLength < (String.ofList name).utf8ByteSize then .error .nameTooLong
  else .ok (location ++ [name])

/-- Follows one piece of a path. -/
def follow (tree : FileTree) (location : Location) (piece : List Char) :
    Except FileError Location :=
  match tree.node? location with
  | some .directory =>
    if Path.isSkipped piece then .ok location
    else if piece = "..".toList then .ok location.dropLast
    else do
      let inner ← child location piece
      if (tree.node? inner).isSome then .ok inner else .error .notFound
  | some (.file _) => .error .notDirectory
  | none => .error .notFound

/-- Where a path starts. -/
def start (tree : FileTree) (text : List Char) : Location :=
  if text.head? = some '/' then [] else tree.workingDirectory

/-- The error of a path that cannot name anything. -/
def checkName (path : Path) : Except FileError Unit :=
  if path.text.toList.contains '\x00' then .error .badName
  else if maxPathLength < path.text.utf8ByteSize then .error .nameTooLong
  else if path.text.isEmpty then .error .notFound
  else .ok ()

/-- The location that a path names. -/
def locate (tree : FileTree) (path : Path) : Except FileError Location := do
  checkName path
  let text := path.text.toList
  (text.splitOn '/').foldlM tree.follow (tree.start text)

/-- What a path names that something is to be put at. -/
inductive Target where
  | present (location : Location)
  /-- Nothing is there, in a directory that is there. -/
  | free (location : Location)
  deriving Repr, DecidableEq

/-- The target that some pieces of a path name, from a location. -/
def targetFrom (tree : FileTree) (location : Location) : List (List Char) → Except FileError Target
  | [] => .ok (.present location)
  | [piece] =>
    match tree.node? location with
    | some .directory =>
      if Path.isSkipped piece then .ok (.present location)
      else if piece = "..".toList then .ok (.present location.dropLast)
      else do
        let inner ← child location piece
        if (tree.node? inner).isSome then .ok (.present inner) else .ok (.free inner)
    | some (.file _) => .error .notDirectory
    | none => .error .notFound
  | piece :: next :: rest => do
    targetFrom tree (← tree.follow location piece) (next :: rest)

/-- The target that a path names. -/
def target (tree : FileTree) (path : Path) (pieces : List (List Char)) :
    Except FileError Target := do
  checkName path
  tree.targetFrom (tree.start path.text.toList) pieces

/-- The bytes of a file. -/
def read (tree : FileTree) (path : Path) : Except FileError (List UInt8) := do
  match tree.node? (← tree.locate path) with
  | some (.file bytes) => .ok bytes
  | some .directory => .error .isDirectory
  | none => .error .notFound

/-- Makes or replaces a file. -/
def write (tree : FileTree) (path : Path) (bytes : List UInt8) : Except FileError FileTree := do
  let pieces := path.text.toList.splitOn '/'
  match ← tree.target path pieces with
  | .free location => .ok (tree.setNode location (.file bytes))
  | .present location =>
    match tree.node? location with
    | some (.file _) => .ok (tree.setNode location (.file bytes))
    | _ => .error .isDirectory

/-- Makes a directory; slashes at the end of its path do not count. -/
def makeDirectory (tree : FileTree) (path : Path) : Except FileError FileTree := do
  let pieces := path.text.toList.splitOn '/'
  let pieces := (pieces.reverse.dropWhile List.isEmpty).reverse
  match ← tree.target path pieces with
  | .free location => .ok (tree.setNode location .directory)
  | .present _ => .error .exists_

/-- Whether a path names a directory. -/
def isDirectory (tree : FileTree) (path : Path) : Bool :=
  match tree.locate path with
  | .ok location => tree.node? location == some .directory
  | .error _ => false

/-- Whether a path names anything. -/
def isPresent (tree : FileTree) (path : Path) : Bool :=
  match tree.locate path with
  | .ok location => (tree.node? location).isSome
  | .error _ => false

/-- The bytes of what is to be copied. -/
def readRegular (tree : FileTree) (path : Path) : Except FileError (List UInt8) := do
  match tree.node? (← tree.locate path) with
  | some (.file bytes) => .ok bytes
  | some .directory => .error .notRegular
  | none => .error .notFound

/-- Copies a file.  The target is emptied first, so a file that is copied to itself is lost. -/
def copy (tree : FileTree) (source destination : Path) : Except FileError FileTree := do
  let _ ← tree.readRegular source
  let emptied ← tree.write destination []
  let bytes ← emptied.readRegular source
  emptied.write destination bytes

/-- Makes a change, or leaves the tree as it is. -/
def change (step : FileTree → Except FileError FileTree) :
    StateM FileTree (Except FileError Unit) := do
  match step (← get) with
  | .ok tree => do
    set tree
    pure (.ok ())
  | .error error => pure (.error error)

instance : MonadFiles (StateM FileTree) where
  readFile path := do pure ((← get).read path)
  writeFile path bytes := change fun tree => tree.write path bytes
  makeDirectory path := change fun tree => tree.makeDirectory path
  isDirectory path := do pure ((← get).isDirectory path)
  isPresent path := do pure ((← get).isPresent path)
  copyFile source destination := change fun tree => tree.copy source destination

end FileTree

end HeaderBindings
