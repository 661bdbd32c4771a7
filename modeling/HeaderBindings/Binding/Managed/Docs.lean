import HeaderBindings.Text.Lines

/-!
# Documentation in XML

The documentation of a header becomes a summary, with labelled paragraphs and code in it, and one
element for each documented parameter.  Parameters come last.
-/

namespace HeaderBindings.Managed

/-- Why documentation has no XML form. -/
inductive DocsError where
  | codeAfterParam
  | tagAfterParam (tag : String)
  | unknownParam (name : String) (expected : List String)
  deriving Repr, DecidableEq

/-- The wording of a documentation error. -/
def DocsError.message : DocsError → String
  | .codeAfterParam => "code block after `@param` in docs"
  | .tagAfterParam tag => s!"`@{tag}` after `@param` in docs"
  | .unknownParam name expected =>
    let expected := Text.joinWith ", " expected
    s!"`@param {name}` does not name a parameter, expected one of: {expected}"

/-- The label of a paragraph. -/
inductive DocsLabel where
  | note
  | warning
  | deprecated
  deriving Repr, DecidableEq

/-- The text of a label. -/
def DocsLabel.text : DocsLabel → String
  | .note => "Note"
  | .warning => "Warning"
  | .deprecated => "Deprecated"

/-- A part of a summary. -/
inductive DocsBlock where
  | prose (label : Option DocsLabel) (lines : List String)
  | code (lines : List String)
  deriving Repr, DecidableEq

/-- What a line of documentation says. -/
inductive DocsLine where
  /-- The start or the end of a code block. -/
  | fence
  | param (name text : String)
  /-- The start of a part of the summary, with the text after its tag. -/
  | part (tag : String) (label : Option DocsLabel) (text : String)
  | hidden
  | prose (text : String)
  deriving Repr, DecidableEq

/-- The first field of a text and the rest without the blanks around it. -/
def splitField (text : String) : String × String :=
  match Text.splitFirstWhere? Text.isBlank text with
  | some (field, rest) => (field, Text.trim rest)
  | none => (text, "")

/-- Reads a line that has no blanks at its ends.  A line with an unknown tag is prose. -/
def DocsLine.ofText (line : String) : DocsLine :=
  if Text.startsWith line "```" then .fence
  else
    match Text.dropHead? line "@" with
    | none => .prose line
    | some tagged =>
      let (tag, rest) := splitField tagged
      match tag with
      | "param" => .param (splitField rest).1 (splitField rest).2
      | "brief" => .part tag none rest
      | "note" => .part tag (some .note) rest
      | "warning" => .part tag (some .warning) rest
      | "deprecated" => .part tag (some .deprecated) rest
      | "private" => .hidden
      | _ => .prose line

/-- Documentation that is being read. -/
structure DocsDraft where
  /-- The finished parts of the summary. -/
  finished : List DocsBlock := []
  /-- The label of the part at hand. -/
  label : Option DocsLabel := none
  /-- The lines of the part at hand. -/
  lines : List String := []
  /-- The lines of the code block at hand. -/
  code : Option (List String) := none
  /-- The parameters with their lines, the last one first. -/
  params : List (String × List String) := []
  deriving Repr, DecidableEq

namespace DocsDraft

/-- The parts of the summary up to the one at hand. -/
def parts (draft : DocsDraft) : List DocsBlock :=
  draft.finished ++ [.prose draft.label draft.lines]

/-- Ends the code block at hand. -/
def closeCode (draft : DocsDraft) : DocsDraft :=
  match draft.code with
  | none => draft
  | some code =>
    { draft with
      finished := draft.parts ++ [.code code], label := none, lines := [], code := none }

/-- The lines that a text gives: none if it is empty. -/
def linesOf (text : String) : List String :=
  if text.isEmpty then [] else [text]

/-- Adds a line of prose to the last parameter, or else to the part at hand. -/
def addProse (draft : DocsDraft) (text : String) : DocsDraft :=
  match draft.params with
  | (name, lines) :: rest => { draft with params := (name, lines ++ linesOf text) :: rest }
  | [] => { draft with lines := draft.lines ++ [text] }

/-- Reads a line outside code blocks. -/
def read (expected : List String) (draft : DocsDraft) : DocsLine → Except DocsError DocsDraft
  | .fence =>
    if draft.params.isEmpty then .ok { draft with code := some [] } else .error .codeAfterParam
  | .param name text =>
    if expected.contains name then
      .ok { draft with params := (name, linesOf text) :: draft.params }
    else
      .error (.unknownParam name expected)
  | .part tag label text =>
    if draft.params.isEmpty then
      .ok { draft with finished := draft.parts, label, lines := linesOf text }
    else
      .error (.tagAfterParam tag)
  | .hidden => .ok draft
  | .prose text => .ok (draft.addProse text)

/-- Reads a line. -/
def step (expected : List String) (draft : DocsDraft) (line : String) :
    Except DocsError DocsDraft :=
  match draft.code with
  | some code =>
    if Text.startsWith line "```" then .ok draft.closeCode
    else .ok { draft with code := some (code ++ [line]) }
  | none => draft.read expected (.ofText line)

/-- Reads the lines of some documentation; a code block that is left open ends with them. -/
def ofLines (expected lines : List String) : Except DocsError DocsDraft :=
  (lines.foldlM (step expected) {}).map closeCode

end DocsDraft

/-- Writes the special characters of XML as entities. -/
def escapeXml (text : String) : String :=
  Text.replaceAll (Text.replaceAll (Text.replaceAll text "&" "&amp;") "<" "&lt;") ">" "&gt;"

/-- Lines without the empty ones at both ends. -/
def trimEmpty (lines : List String) : List String :=
  ((lines.dropWhile String.isEmpty).reverse.dropWhile String.isEmpty).reverse

/-- Appends a text to the last line. -/
def appendToLast (text : String) : List String → List String
  | [] => []
  | [line] => [line ++ text]
  | line :: next :: rest => line :: appendToLast text (next :: rest)

/-- The XML lines of a part. -/
def DocsBlock.xml : DocsBlock → List String
  | .prose none lines => (trimEmpty lines).map escapeXml
  | .prose (some label) lines =>
    let label := label.text
    match (trimEmpty lines).map escapeXml with
    | [] => [s!"<para>{label}</para>"]
    | first :: rest => appendToLast "</para>" (s!"<para>{label}: {first}" :: rest)
  | .code lines => "<code>" :: lines.map escapeXml ++ ["</code>"]

/-- The XML line of a parameter. -/
def paramXml (param : String × List String) : String :=
  let name := param.1
  let text := escapeXml (Text.joinWith " " param.2)
  s!"<param name=\"{name}\">{text}</param>"

/-- The XML lines of documentation that has been read. -/
def DocsDraft.xml (draft : DocsDraft) : List String :=
  "<summary>" :: draft.parts.flatMap DocsBlock.xml ++
    "</summary>" :: draft.params.reverse.map paramXml

/-- The XML lines of some documentation; blank documentation has none. -/
def xmlDocs (expected docs : List String) : Except DocsError (List String) :=
  let lines := docs.map Text.trim
  if lines.all String.isEmpty then .ok []
  else (DocsDraft.ofLines expected lines).map DocsDraft.xml

end HeaderBindings.Managed
