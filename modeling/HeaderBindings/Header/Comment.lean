import HeaderBindings.Text.Slice

/-!
# Comments

Line comments are removed from the lines of a declaration, and block comments from an enum.  A pair
of slashes inside a string or a character literal starts no line comment.
-/

namespace HeaderBindings.Header

/-- Where a line stands between its literals. -/
inductive LiteralState where
  | code
  /-- Inside a literal with this quote; `escaped` holds after an escaping backslash. -/
  | literal (quote : Char) (escaped : Bool)
  deriving Repr, DecidableEq

/-- The state after one more character. -/
def LiteralState.next : LiteralState → Char → LiteralState
  | .literal quote true, _ => .literal quote false
  | .literal quote false, c =>
    if c = '\\' then .literal quote true
    else if c = quote then .code
    else .literal quote false
  | .code, c => if c = '"' ∨ c = '\x27' then .literal c false else .code

/-- The text before the first pair of slashes outside literals, if there is one. -/
def beforeComment? (state : LiteralState) : List Char → Option (List Char)
  | [] => none
  | c :: rest =>
    if state = .code ∧ c = '/' ∧ rest.head? = some '/' then some []
    else (beforeComment? (state.next c) rest).map (c :: ·)

/-- A line without its line comment and without the blanks in front of the comment. -/
def stripLineComment (line : String) : String :=
  match beforeComment? .code line.toList with
  | some before => .ofList (Text.dropEndWhile Text.isBlank before)
  | none => line

/--
Removes the closed block comments from left to right; the counter holds how many characters of the
comment at hand are still to be passed over.  An unclosed comment is kept.
-/
def dropBlockCommentsFrom : Nat → List Char → List Char
  | _, [] => []
  | n + 1, _ :: rest => dropBlockCommentsFrom n rest
  | 0, c :: rest =>
    if c = '/' ∧ rest.head? = some '*' then
      match Text.cut? ['*', '/'] rest.tail with
      | some sides => dropBlockCommentsFrom (sides.1.length + 3) rest
      | none => c :: dropBlockCommentsFrom 0 rest
    else
      c :: dropBlockCommentsFrom 0 rest

/-- A text without its block comments. -/
def dropBlockComments (text : String) : String :=
  .ofList (dropBlockCommentsFrom 0 text.toList)

end HeaderBindings.Header
