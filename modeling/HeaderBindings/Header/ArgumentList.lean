import HeaderBindings.Text.WordRun
import HeaderBindings.Typing.Classify

/-!
# Argument lists

The list between the parentheses of a declaration is split at its outermost commas, and each piece
is read as a type, a name and a default.
-/

namespace HeaderBindings.Header

/--
The text up to the parenthesis that closes an open one, and the text after it.  `depth` counts the
parentheses opened since.
-/
def toClosingParen? (depth : Nat) : List Char → Option (List Char × List Char)
  | [] => none
  | c :: rest =>
    let onwards (depth : Nat) :=
      (toClosingParen? depth rest).map fun sides => (c :: sides.1, sides.2)
    if c = '(' then onwards (depth + 1)
    else if c = ')' then
      match depth with
      | 0 => some ([], rest)
      | outer + 1 => onwards outer
    else onwards depth

/-- Whether the first parenthesis of a text has been closed. -/
def argumentsClosed (text : String) : Bool :=
  match Text.cut? ['('] text.toList with
  | some (_, rest) => (toClosingParen? 0 rest).isSome
  | none => false

/-- An opening bracket of any kind. -/
def opensBracket (c : Char) : Bool :=
  c == '(' || c == '[' || c == '\x7b' || c == '<'

/-- A closing bracket of any kind. -/
def closesBracket (c : Char) : Bool :=
  c == ')' || c == ']' || c == '\x7d' || c == '>'

/-- Which brackets of an argument list have no partner. -/
inductive BracketError where
  | moreClosing (args : String)
  | moreOpening (args : String)
  deriving Repr, DecidableEq

/-- The wording of a bracket error. -/
def BracketError.message : BracketError → String
  | .moreClosing args => s!"there are more closing brackets than opening ones:\n{args}"
  | .moreOpening args => s!"there are more opening brackets than closing ones:\n{args}"

/-- Puts a character in front of the first piece. -/
def consPiece (c : Char) : List (List Char) → List (List Char)
  | [] => [[c]]
  | piece :: rest => (c :: piece) :: rest

/-- Splits a text at the commas outside brackets; `depth` counts the open brackets, and the two
errors stand for brackets without a partner. -/
def splitOutermost (moreClosing moreOpening : BracketError) (depth : Nat) :
    List Char → Except BracketError (List (List Char))
  | [] => if depth = 0 then .ok [[]] else .error moreOpening
  | c :: rest =>
    if opensBracket c then
      (splitOutermost moreClosing moreOpening (depth + 1) rest).map (consPiece c)
    else if closesBracket c then
      match depth with
      | 0 => .error moreClosing
      | outer + 1 => (splitOutermost moreClosing moreOpening outer rest).map (consPiece c)
    else if c = ',' ∧ depth = 0 then
      (splitOutermost moreClosing moreOpening 0 rest).map ([] :: ·)
    else
      (splitOutermost moreClosing moreOpening depth rest).map (consPiece c)

/-- The arguments of an argument list, each without the blanks at its ends. -/
def splitArguments (args : String) : Except BracketError (List String) :=
  let args := Text.trim args
  if args.isEmpty || args == "void" then
    .ok []
  else
    (splitOutermost (.moreClosing args) (.moreOpening args) 0 args.toList).map fun pieces =>
      pieces.map fun piece => Text.trim (.ofList piece)

/-- The default after a parameter's name, without its equals signs. -/
def defaultText (after : List Char) : String :=
  Text.trim (.ofList ((after.dropWhile Text.isBlank).dropWhile (· == '=')))

/--
Reads one argument.  The name is the first word run in front of an equals sign, or else the last
word run of the text if something stands before it; an argument without a name is named after its
position.  A default that has a replacement is replaced.
-/
def parseArgument (replacements : List (String × String)) (position : Nat) (text : String) :
    Argument :=
  let words := Text.occurrences text.toList
  let make (name : String) (type : String) (default : Option String) : Argument :=
    { name, type, abiType := Typing.withoutReference type, default }
  match words.find? fun word => word.next? == some '=' with
  | some word =>
    let value := defaultText word.after
    make (.ofList word.word) (Text.trim (.ofList word.before))
      (some ((replacements.lookup value).getD value))
  | none =>
    let type := words.getLast?.filter fun word =>
      word.after.isEmpty && !(word.before.all Text.isBlank)
    match type with
    | some word => make (.ofList word.word) (Text.trim (.ofList word.before)) none
    | none => make s!"arg{position}" (Text.trim text) none

end HeaderBindings.Header
