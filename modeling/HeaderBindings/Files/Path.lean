import HeaderBindings.Text.Slice

/-!
# Paths

A path is a text in which slashes stand between pieces.  Empty pieces and single points are no
components, except for a point in front; they are kept in the text all the same.
-/

namespace HeaderBindings

/-- A path, as it is written. -/
structure Path where
  text : String
  deriving Repr, DecidableEq

namespace Path

/-- The start of a path that belongs to no piece: the root, or a point in front. -/
def lead : List Char → List Char
  | '/' :: _ => ['/']
  | ['.'] => ['.']
  | '.' :: '/' :: _ => ['.']
  | _ => []

/-- The pieces of a path after its lead. -/
def pieces (text : List Char) : List (List Char) :=
  (text.drop (lead text).length).splitOn '/'

/-- Whether a piece is no component. -/
def isSkipped (piece : List Char) : Bool :=
  piece == [] || piece == ['.']

/-- The text of some pieces. -/
def joinPieces (parts : List (List Char)) : List Char :=
  ['/'].intercalate parts

/-- Drops the pieces at the end that are no components. -/
def dropSkippedEnd (parts : List (List Char)) : List (List Char) :=
  (parts.reverse.dropWhile isSkipped).reverse

/-- Whether a path starts at the root. -/
def isAbsolute (path : Path) : Bool :=
  path.text.toList.head? == some '/'

/-- A path from the directory that another path names. -/
def join (path other : Path) : Path :=
  if other.isAbsolute || path.text.isEmpty then other
  else if Text.endsWith path.text "/" then ⟨path.text ++ other.text⟩
  else ⟨path.text ++ "/" ++ other.text⟩

/-- The path of the directory that holds what a path names. -/
def parent? (path : Path) : Option Path :=
  let text := path.text.toList
  match (pieces text).reverse.dropWhile isSkipped with
  | _ :: before => some ⟨.ofList (lead text ++ joinPieces (dropSkippedEnd before.reverse))⟩
  | [] => if lead text = ['.'] then some ⟨""⟩ else none

/-- The last component of a path, if it is a name. -/
def fileName? (path : Path) : Option String :=
  match (pieces path.text.toList).reverse.dropWhile isSkipped with
  | piece :: _ => if piece = "..".toList then none else some (.ofList piece)
  | [] => none

/-- A file name before and after its last point; a point in front does not count. -/
def splitName (name : String) : String × Option String :=
  match Text.cutLast? ['.'] name.toList with
  | some (stem, extension) =>
    if stem.isEmpty then (name, none) else (.ofList stem, some (.ofList extension))
  | none => (name, none)

/-- The part of a file name after its last point. -/
def extension? (path : Path) : Option String :=
  path.fileName?.bind fun name => (splitName name).2

/-- A path that ends with the stem of its file name and an extension; without a file name it stays
as it is. -/
def setExtension (path : Path) (extension : String) : Path :=
  let text := path.text.toList
  match path.fileName?, (pieces text).reverse.dropWhile isSkipped with
  | some name, _ :: before =>
    let renamed := (splitName name).1 ++ "." ++ extension
    ⟨.ofList (lead text ++ joinPieces (before.reverse ++ [renamed.toList]))⟩
  | _, _ => path

/-- A path with another extension.  As many characters as the present extension has are cut off the
end, and what is left gets the other one. -/
def withExtension (path : Path) (extension : String) : Path :=
  let present := (path.extension?.getD "").length
  let cut : Path := ⟨.ofList (path.text.toList.reverse.drop present).reverse⟩
  cut.setExtension extension

/-- The pieces after some components, if the pieces start with them. -/
def afterComponents? : List (List Char) → List (List Char) → Option (List (List Char))
  | [], parts => some parts
  | _ :: _, [] => none
  | component :: rest, piece :: parts =>
    if isSkipped piece then afterComponents? (component :: rest) parts
    else if piece = component then afterComponents? rest parts
    else none

/-- The components of a path after its lead. -/
def components (text : List Char) : List (List Char) :=
  (pieces text).filter fun piece => !isSkipped piece

/-- A path from the directory that a base names, if the path starts with the components of the
base. -/
def relativeTo? (path base : Path) : Option Path :=
  let text := path.text.toList
  let start := lead base.text.toList
  let components := components base.text.toList
  if start.isEmpty && components.isEmpty then
    some ⟨.ofList (lead text ++ joinPieces (dropSkippedEnd (pieces text)))⟩
  else if lead text = start then
    (afterComponents? components (pieces text)).map fun parts =>
      ⟨.ofList (joinPieces (dropSkippedEnd (parts.dropWhile isSkipped)))⟩
  else
    none

end Path

end HeaderBindings
