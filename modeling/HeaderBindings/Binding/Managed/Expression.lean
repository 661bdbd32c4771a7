import HeaderBindings.Binding.Managed.Type
import HeaderBindings.Text.Pascal
import HeaderBindings.Text.WordRun

/-!
# Default expressions

C++ expressions are rewritten to C# word by word: engine types get their C# names, constants of a
type are put into pascal case, and a call of a type becomes the construction of a value.
-/

namespace HeaderBindings.Managed

open Text (Segment)

/-- The engine types whose names change inside expressions. -/
def renamedInExpressions : List String :=
  ["AABB", "Vector2i", "Vector3i", "Vector4i", "Rect2i"]

/-- An engine type under its C# name; any other word as it is. -/
def renameType (word : List Char) : List Char :=
  if renamedInExpressions.contains (String.ofList word) then
    (typeName (.ofList word)).toList
  else
    word

/-- A constant's name: a capital letter, then capital letters, digits and underscores. -/
def isConstantName : List Char → Bool
  | [] => false
  | c :: rest => c.isUpper && rest.all fun d => d.isUpper || d.isDigit || d == '_'

/-- Puts the constants that directly follow a point into pascal case. -/
def renameMembers : List Segment → List Char
  | [] => []
  | .gap gap :: .word word :: rest =>
    let member :=
      if gap.getLast? = some '.' && isConstantName word then
        (Text.pascal (Text.lowercase (.ofList word))).toList
      else
        word
    gap ++ member ++ renameMembers rest
  | segment :: rest => segment.chars ++ renameMembers rest

/-- Whether a word is called as a type: it starts with a capital letter, a parenthesis follows it,
and the character in front, if there is one, is no point. -/
def isConstructor (before : Option Char) (word : List Char) (after : List Segment) : Bool :=
  word.head?.any Char.isUpper && before != some '.' &&
    match after with
    | .gap ('(' :: _) :: _ => true
    | _ => false

/--
Puts `new ` in front of the types that are called.  `before` is the gap in front of the next word.
A word that stands directly after the parenthesis of such a call is left alone: `free` tells that
the character in front of the next word does not belong to a call.
-/
def insertNew (before : List Char) (free : Bool) : List Segment → List Char
  | [] => []
  | .gap gap :: rest => gap ++ insertNew gap (free || gap.length > 1) rest
  | .word word :: rest =>
    if free && isConstructor before.getLast? word rest then
      "new ".toList ++ word ++ insertNew [] false rest
    else
      word ++ insertNew [] true rest

/-- The C# form of an expression. -/
def expression (text : String) : String :=
  let unqualified := Text.replaceAll (Text.replaceAll text "godot::" "") "::" "."
  let renamed := Text.mapWords renameType unqualified.toList
  let members := renameMembers (Text.segments renamed)
  .ofList (insertNew [] true (Text.segments members))

end HeaderBindings.Managed
