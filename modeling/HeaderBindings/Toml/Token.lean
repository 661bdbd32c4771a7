import HeaderBindings.Text.Digit

/-!
# TOML tokens

The characters of a document are read once, from left to right.  Strings are single tokens whose
escapes are resolved, and comments leave no token.
-/

namespace HeaderBindings.Toml

/-- A token. -/
inductive Token where
  | blank (c : Char)
  | newline
  | comma
  | equals
  | dot
  | openBracket
  | closeBracket
  | openBrace
  | closeBrace
  | text (isMultiline : Bool) (value : String)
  /-- A run of other characters: a bare key or a part of a number, a date or a boolean. -/
  | word (run : List Char)
  deriving Repr, DecidableEq

/-- The two kinds of strings. -/
inductive Quote where
  /-- With escapes. -/
  | basic
  /-- Without escapes. -/
  | literal
  deriving Repr, DecidableEq

/-- The quotation mark of a kind of string. -/
def Quote.mark : Quote → Char
  | .basic => '"'
  | .literal => '\x27'

/-- Where a document stands inside a token.  Characters that were read are kept in reverse. -/
inductive LexState where
  | between
  | word (read : List Char)
  | comment
  /-- After a carriage return between tokens. -/
  | carriage
  /-- After the first one or two quotation marks of a string; `isPair` holds after two. -/
  | opening (quote : Quote) (isPair : Bool)
  | line (quote : Quote) (read : List Char)
  /-- Right after the start of a multi-line string, where a line end does not count. -/
  | linesStart (quote : Quote)
  | linesStartCarriage (quote : Quote)
  /-- Inside a multi-line string, after some quotation marks. -/
  | lines (quote : Quote) (read : List Char) (marks : Nat)
  | linesCarriage (quote : Quote) (read : List Char)
  | escape (isMultiline : Bool) (read : List Char)
  /-- Inside the number of an escape, of which `due` digits are still missing. -/
  | code (isMultiline : Bool) (read : List Char) (due : Nat) (value : Nat)
  /-- After the backslash at the end of a line, where blanks and line ends do not count. -/
  | continued (read : List Char) (isBroken : Bool)
  | continuedCarriage (read : List Char)
  deriving Repr, DecidableEq

/-- Whether a character may stand in comments and strings; control characters may not. -/
def isPlain (c : Char) : Bool :=
  c == '\t' || 0x20 ≤ c.toNat && c.toNat != 0x7F

/-- A blank. -/
def isBlank (c : Char) : Bool :=
  c == ' ' || c == '\t'

/-- The characters besides blanks that end a word. -/
def wordEnds : List Char :=
  ['\n', '\r', '#', '"', '\x27', ',', '=', '.', '[', ']', '\x7b', '\x7d']

/-- Whether a character belongs to a word. -/
def isWordChar (c : Char) : Bool :=
  !isBlank c && !wordEnds.contains c

/-- The token of a single character. -/
def punctuation? (c : Char) : Option Token :=
  if c = ',' then some .comma
  else if c = '=' then some .equals
  else if c = '.' then some .dot
  else if c = '[' then some .openBracket
  else if c = ']' then some .closeBracket
  else if c = '\x7b' then some .openBrace
  else if c = '\x7d' then some .closeBrace
  else none

/-- One character between tokens. -/
def lexBetween (c : Char) : LexState × List Token :=
  if isBlank c then (.between, [.blank c])
  else if c = '\n' then (.between, [.newline])
  else if c = '\r' then (.carriage, [])
  else if c = '#' then (.comment, [])
  else if c = '"' then (.opening .basic false, [])
  else if c = '\x27' then (.opening .literal false, [])
  else
    match punctuation? c with
    | some token => (.between, [token])
    | none => (.word [c], [])

/-- The token of a string that was read. -/
def textToken (isMultiline : Bool) (read : List Char) : Token :=
  .text isMultiline (.ofList read.reverse)

/-- The text of some quotation marks, in front of what was read. -/
def pushMarks (quote : Quote) (marks : Nat) (read : List Char) : List Char :=
  List.replicate marks quote.mark ++ read

/-- One character inside a string of one line. -/
def lexLine (quote : Quote) (read : List Char) (c : Char) : Option (LexState × List Token) :=
  if c = quote.mark then some (.between, [textToken false read])
  else if c = '\\' ∧ quote = .basic then some (.escape false read, [])
  else if isPlain c then some (.line quote (c :: read), [])
  else none

/-- One character inside a multi-line string.  Three quotation marks end it, and up to two more may
stand before them. -/
def lexLines (quote : Quote) (read : List Char) (marks : Nat) (c : Char) :
    Option (LexState × List Token) :=
  if c = quote.mark then
    if marks < 4 then some (.lines quote read (marks + 1), [])
    else some (.between, [textToken true (pushMarks quote 2 read)])
  else if 3 ≤ marks then
    let (next, tokens) := lexBetween c
    some (next, textToken true (pushMarks quote (marks - 3) read) :: tokens)
  else
    let read := pushMarks quote marks read
    if c = '\\' ∧ quote = .basic then some (.escape true read, [])
    else if c = '\n' then some (.lines quote ('\n' :: read) 0, [])
    else if c = '\r' then some (.linesCarriage quote read, [])
    else if isPlain c then some (.lines quote (c :: read) 0, [])
    else none

/-- The state inside a string with escapes. -/
def inBasic (isMultiline : Bool) (read : List Char) : LexState :=
  if isMultiline then .lines .basic read 0 else .line .basic read

/-- The character that a one-letter escape stands for. -/
def escaped? (c : Char) : Option Char :=
  if c = '"' ∨ c = '\\' then some c
  else if c = 'b' then some '\x08'
  else if c = 't' then some '\t'
  else if c = 'n' then some '\n'
  else if c = 'f' then some '\x0C'
  else if c = 'r' then some '\r'
  else if c = 'e' then some '\x1B'
  else none

/-- How many digits the number of an escape has. -/
def codeDigits? (c : Char) : Option Nat :=
  if c = 'x' then some 2 else if c = 'u' then some 4 else if c = 'U' then some 8 else none

/-- One character after a backslash. -/
def lexEscape (isMultiline : Bool) (read : List Char) (c : Char) :
    Option (LexState × List Token) :=
  match escaped? c, codeDigits? c with
  | some plain, _ => some (inBasic isMultiline (plain :: read), [])
  | none, some due => some (.code isMultiline read due 0, [])
  | none, none =>
    if !isMultiline then none
    else if isBlank c then some (.continued read false, [])
    else if c = '\n' then some (.continued read true, [])
    else if c = '\r' then some (.continuedCarriage read, [])
    else none

/-- The state after the number of an escape; a surrogate is no character. -/
def lexCode (isMultiline : Bool) (read : List Char) (value : Nat) : Option LexState :=
  if value.isValidChar then some (inBasic isMultiline (Char.ofNat value :: read)) else none

/-- One character: the state after it and the tokens that it completes. -/
def lexStep (state : LexState) (c : Char) : Option (LexState × List Token) :=
  match state with
  | .between => some (lexBetween c)
  | .word read =>
    if isWordChar c then some (.word (c :: read), [])
    else
      let (next, tokens) := lexBetween c
      some (next, .word read.reverse :: tokens)
  | .comment =>
    if c = '\n' ∨ c = '\r' then some (lexBetween c)
    else if isPlain c then some (.comment, [])
    else none
  | .carriage => if c = '\n' then some (.between, [.newline]) else none
  | .opening quote false =>
    if c = quote.mark then some (.opening quote true, []) else lexLine quote [] c
  | .opening quote true =>
    if c = quote.mark then some (.linesStart quote, [])
    else
      let (next, tokens) := lexBetween c
      some (next, textToken false [] :: tokens)
  | .line quote read => lexLine quote read c
  | .linesStart quote =>
    if c = '\n' then some (.lines quote [] 0, [])
    else if c = '\r' then some (.linesStartCarriage quote, [])
    else lexLines quote [] 0 c
  | .linesStartCarriage quote => if c = '\n' then some (.lines quote [] 0, []) else none
  | .lines quote read marks => lexLines quote read marks c
  | .linesCarriage quote read =>
    if c = '\n' then some (.lines quote ('\n' :: '\r' :: read) 0, []) else none
  | .escape isMultiline read => lexEscape isMultiline read c
  | .code isMultiline read due value =>
    if !Text.isHexDigit c then none
    else
      let value := value * 16 + Text.digitValue c
      if due ≤ 1 then (lexCode isMultiline read value).map fun next => (next, [])
      else some (.code isMultiline read (due - 1) value, [])
  | .continued read isBroken =>
    if isBlank c then some (.continued read isBroken, [])
    else if c = '\n' then some (.continued read true, [])
    else if c = '\r' then some (.continuedCarriage read, [])
    else if isBroken then lexLines .basic read 0 c
    else none
  | .continuedCarriage read => if c = '\n' then some (.continued read true, []) else none

/-- The tokens that the end of the document completes. -/
def lexEnd : LexState → Option (List Token)
  | .between => some []
  | .word read => some [.word read.reverse]
  | .comment => some []
  | .opening _ true => some [textToken false []]
  | .lines quote read marks =>
    if 3 ≤ marks then some [textToken true (pushMarks quote (marks - 3) read)] else none
  | _ => none

/-- The tokens of a document that follow a state. -/
def tokensFrom? (state : LexState) : List Char → Option (List Token)
  | [] => lexEnd state
  | c :: rest => do
    let (next, completed) ← lexStep state c
    let following ← tokensFrom? next rest
    pure (completed ++ following)

/-- The tokens of a document; a byte order mark in front of it is passed over. -/
def tokens? : List Char → Option (List Token)
  | '\uFEFF' :: rest => tokensFrom? .between rest
  | text => tokensFrom? .between text

end HeaderBindings.Toml
