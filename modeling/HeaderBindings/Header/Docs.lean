import HeaderBindings.Notice
import HeaderBindings.Text.WordRun

/-!
# Documentation comments

The documentation of a declaration stands right above it: a block whose last line is a lone closing
delimiter, or a reference to the documentation of another method.
-/

namespace HeaderBindings.Header

/-- What stands above a declaration. -/
inductive Docs where
  | absent
  | block (lines : List String)
  | reference (target : String)
  deriving Repr, DecidableEq

/-- The text that takes the place of an image. -/
def imagePlaceholder : List Char :=
  "[THERE WAS AN IMAGE]".toList

/--
Replaces an image of a line: everything from its opening to the last closing parenthesis of the
line.  Hence a line has at most one replacement.
-/
def replaceImage (line : List Char) : List Char :=
  match Text.cut? ['!', '['] line with
  | none => line
  | some (before, inside) =>
    match Text.cut? [']', '('] inside with
    | none => line
    | some (_, target) =>
      match Text.cutLast? [')'] target with
      | none => line
      | some (_, after) => before ++ imagePlaceholder ++ after

/-- A line of a documentation block without its leading star. -/
def docLine (line : String) : String :=
  let bare :=
    match Text.dropHead? line "*" with
    | some rest => Text.trim rest
    | none => line
  .ofList (replaceImage bare.toList)

/--
The documentation that ends right above a declaration.  `above` holds the trimmed lines above it,
the nearest first; a block begins after the nearest opening delimiter.
-/
def docsAbove (lineNumber : Nat) (above : List String) : Docs × List Notice :=
  match above with
  | [] => (.absent, [])
  | nearest :: earlier =>
    match Text.dropHead? nearest "// #docs_func " with
    | some target => (.reference (Text.trim target), [])
    | none =>
      if nearest == "*/" then
        if earlier.contains "/**" then
          let body := (earlier.takeWhile fun line => line != "/**").reverse
          (.block (body.map docLine), [])
        else
          (.absent, [.unopenedDocs lineNumber])
      else
        (.absent, [])

/-- The name of a method that is declared on a line without a marker. -/
def plainDeclaration? (line : String) : Option String :=
  if ["//", "/*", "*", "#"].any (Text.startsWith line) then
    none
  else
    ((Text.occurrences line.toList).find? fun occurrence => occurrence.next? == some '(').map
      fun occurrence => .ofList occurrence.word

end HeaderBindings.Header
