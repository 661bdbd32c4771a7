import HeaderBindings.Text.Lines

/-!
# Templates

A binding is a template in which marks are replaced by blocks of generated lines.  A mark is the end
of a line: `// `, then the marker of the project, then the name of the block.
-/

namespace HeaderBindings.Binding

/-- Generated lines with the name of the mark that they take the place of. -/
structure Block where
  name : String
  lines : List String
  deriving Repr, DecidableEq

/-- The text of a mark. -/
def mark (marker name : String) : String :=
  "// " ++ marker ++ name

/-- A mark that ends no line of a template. -/
structure MissingMark where
  mark : String
  deriving Repr, DecidableEq

/-- The wording of a missing mark. -/
def MissingMark.message (missing : MissingMark) : String :=
  let mark := missing.mark
  s!"template mark `{mark}` not found"

/-- The wording of a missing mark in the template of a binding. -/
def MissingMark.messageIn (binding : String) (missing : MissingMark) : String :=
  s!"filling the {binding} template: " ++ missing.message

/-- Puts lines in the place of the first line that ends with a mark. -/
def insertAt? (mark : String) (block : List String) : List String → Option (List String)
  | [] => none
  | line :: rest =>
    if Text.endsWith line mark then some (block ++ rest)
    else (insertAt? mark block rest).map (line :: ·)

/-- Fills the marks of some blocks, one block after the other. -/
def fillLines (marker : String) (lines : List String) :
    List Block → Except MissingMark (List String)
  | [] => .ok lines
  | block :: rest =>
    match insertAt? (mark marker block.name) block.lines lines with
    | none => .error ⟨mark marker block.name⟩
    | some filled => fillLines marker filled rest

/-- The text of a template whose marks are filled. -/
def fill (marker template : String) (blocks : List Block) : Except MissingMark String :=
  (fillLines marker (Text.splitLines template) blocks).map Text.joinLines

/-- Puts `indent` in front of a line, unless the line is empty. -/
def indented (indent line : String) : String :=
  if line.isEmpty then line else indent ++ line

/-- A type with the name that it declares; the star of a pointer stands next to the name. -/
def declaration (type name : String) : String :=
  let type := Text.trim type
  if Text.endsWith type "*" then type ++ name else type ++ " " ++ name

/-- The include line of an engine class. -/
def engineInclude (name : String) : String :=
  s!"#include <godot_cpp/classes/{name}.hpp>"

end HeaderBindings.Binding
