import HeaderBindings.Json.Value
import HeaderBindings.Text.Digit

/-!
# Reading JSON

A text is read in two passes, and both go through their input once: the characters become tokens,
and the tokens become a value with the help of a stack of the containers that are open.
-/

namespace HeaderBindings.Json

/-- A token. -/
inductive Token where
  | openBrace
  | closeBrace
  | openBracket
  | closeBracket
  | comma
  | colon
  | string (text : List Char)
  /-- A number or one of the three words of the language. -/
  | scalar (value : Value)
  deriving Repr, BEq

/-- Where a text stands inside a token.  Characters that were read are kept in reverse. -/
inductive LexState where
  | between
  | text (read : List Char)
  | escape (read : List Char)
  /-- Inside the number of an escape; `high` is the first half of a surrogate pair. -/
  | unit (read : List Char) (high : Option Nat) (digits : List Char)
  /-- After the first half of a surrogate pair, before the backslash of the second. -/
  | pair (read : List Char) (high : Nat)
  /-- After that backslash. -/
  | pairEscape (read : List Char) (high : Nat)
  /-- Inside a number or a word. -/
  | scalar (read : List Char)
  deriving Repr, DecidableEq

/-- A blank between tokens. -/
def isSpace (c : Char) : Bool :=
  c == ' ' || c == '\n' || c == '\r' || c == '\t'

/-- A character of a number or of a word. -/
def isScalarChar (c : Char) : Bool :=
  c.isAlphanum || c == '-' || c == '+' || c == '.'

/-- The value of a digit in base sixteen. -/
def hexValue? (c : Char) : Option Nat :=
  if Text.isHexDigit c then some (Text.digitValue c) else none

/-- The number of four digits in base sixteen, the last one first. -/
def unitValue? : List Char → Option Nat
  | [] => some 0
  | c :: rest => do pure ((← unitValue? rest) * 16 + (← hexValue? c))

/-- What is left after one or more digits. -/
def afterDigits? (text : List Char) : Option (List Char) :=
  if text.head?.any Char.isDigit then some (text.dropWhile Char.isDigit) else none

/-- What is left after the integer part of a number. -/
def afterInteger? : List Char → Option (List Char)
  | '0' :: rest => some rest
  | text => afterDigits? text

/-- What is left after a fraction, if there is one. -/
def afterFraction? : List Char → Option (List Char)
  | '.' :: rest => afterDigits? rest
  | text => some text

/-- What is left after an exponent, if there is one. -/
def afterExponent? : List Char → Option (List Char)
  | c :: rest =>
    if c = 'e' ∨ c = 'E' then
      match rest with
      | '-' :: digits => afterDigits? digits
      | '+' :: digits => afterDigits? digits
      | digits => afterDigits? digits
    else
      some (c :: rest)
  | [] => some []

/-- Whether a text is a number. -/
def isNumber (text : List Char) : Bool :=
  let unsigned :=
    match text with
    | '-' :: rest => rest
    | _ => text
  match (afterInteger? unsigned).bind fun rest => (afterFraction? rest).bind afterExponent? with
  | some [] => true
  | _ => false

/-- The value of a number or of a word. -/
def scalar? (text : List Char) : Option Value :=
  if text = "null".toList then some .null
  else if text = "true".toList then some (.bool true)
  else if text = "false".toList then some (.bool false)
  else if isNumber text then some (.number (.ofList text))
  else none

/-- The token of a single character. -/
def punctuation? (c : Char) : Option Token :=
  if c = '\x7b' then some .openBrace
  else if c = '\x7d' then some .closeBrace
  else if c = '[' then some .openBracket
  else if c = ']' then some .closeBracket
  else if c = ',' then some .comma
  else if c = ':' then some .colon
  else none

/-- One character between tokens. -/
def lexBetween (c : Char) : Option (LexState × List Token) :=
  if isSpace c then some (.between, [])
  else if c = '"' then some (.text [], [])
  else if isScalarChar c then some (.scalar [c], [])
  else (punctuation? c).map fun token => (.between, [token])

/-- The character that a one-letter escape stands for. -/
def escaped? (c : Char) : Option Char :=
  if c = '"' ∨ c = '\\' ∨ c = '/' then some c
  else if c = 'b' then some '\x08'
  else if c = 'f' then some '\x0C'
  else if c = 'n' then some '\n'
  else if c = 'r' then some '\r'
  else if c = 't' then some '\t'
  else none

/-- The state after the number of an escape; a surrogate without its partner is refused. -/
def lexUnit (read : List Char) (high : Option Nat) (unit : Nat) : Option LexState :=
  match high with
  | some first =>
    if 0xDC00 ≤ unit ∧ unit ≤ 0xDFFF then
      some (.text (Char.ofNat (0x10000 + (first - 0xD800) * 0x400 + (unit - 0xDC00)) :: read))
    else none
  | none =>
    if 0xD800 ≤ unit ∧ unit ≤ 0xDBFF then some (.pair read unit)
    else if 0xDC00 ≤ unit ∧ unit ≤ 0xDFFF then none
    else some (.text (Char.ofNat unit :: read))

/-- One character: the state after it and the tokens that it completes. -/
def lexStep (state : LexState) (c : Char) : Option (LexState × List Token) :=
  match state with
  | .between => lexBetween c
  | .scalar read =>
    if isScalarChar c then some (.scalar (c :: read), [])
    else do
      let value ← scalar? read.reverse
      let (next, tokens) ← lexBetween c
      pure (next, .scalar value :: tokens)
  | .text read =>
    if c = '"' then some (.between, [.string read.reverse])
    else if c = '\\' then some (.escape read, [])
    else if c.toNat < 0x20 then none
    else some (.text (c :: read), [])
  | .escape read =>
    if c = 'u' then some (.unit read none [], [])
    else (escaped? c).map fun plain => (.text (plain :: read), [])
  | .unit read high digits =>
    if digits.length < 3 then
      if (hexValue? c).isSome then some (.unit read high (c :: digits), []) else none
    else do
      let next ← lexUnit read high (← unitValue? (c :: digits))
      pure (next, [])
  | .pair read high => if c = '\\' then some (.pairEscape read high, []) else none
  | .pairEscape read high => if c = 'u' then some (.unit read (some high) [], []) else none

/-- The tokens of a text. -/
def tokens? (state : LexState) : List Char → Option (List Token)
  | [] =>
    match state with
    | .between => some []
    | .scalar read => (scalar? read.reverse).map fun value => [.scalar value]
    | _ => none
  | c :: rest => do
    let (next, completed) ← lexStep state c
    let following ← tokens? next rest
    pure (completed ++ following)

/-- A container that is open, with what it holds so far in reverse. -/
inductive Frame where
  | array (items : List Value)
  /-- An object whose field `name` is being read. -/
  | object (fields : List (String × Value)) (name : String)
  deriving Repr, BEq

/-- What the tokens read so far lead to. -/
inductive ParseState where
  /-- A value is due. -/
  | value (stack : List Frame)
  /-- A value is due, or the end of the array that was just opened. -/
  | firstItem (stack : List Frame)
  /-- The name of a field is due; `first` holds right after the opening brace. -/
  | name (first : Bool) (fields : List (String × Value)) (stack : List Frame)
  /-- The colon after the name of a field is due. -/
  | colon (fields : List (String × Value)) (name : String) (stack : List Frame)
  /-- A value has been read inside the open containers. -/
  | done (value : Value) (stack : List Frame)
  deriving Repr, BEq

/-- The start of a value. -/
def beginValue (stack : List Frame) : Token → Option ParseState
  | .scalar value => some (.done value stack)
  | .string text => some (.done (.string (.ofList text)) stack)
  | .openBracket => some (.firstItem stack)
  | .openBrace => some (.name true [] stack)
  | _ => none

/-- One token: the state after it. -/
def parseStep (state : ParseState) (token : Token) : Option ParseState :=
  match state with
  | .value stack => beginValue stack token
  | .firstItem stack =>
    match token with
    | .closeBracket => some (.done (.array []) stack)
    | other => beginValue (.array [] :: stack) other
  | .name first fields stack =>
    match token with
    | .string text => some (.colon fields (.ofList text) stack)
    | .closeBrace => if first then some (.done (.object []) stack) else none
    | _ => none
  | .colon fields name stack =>
    match token with
    | .colon => some (.value (.object fields name :: stack))
    | _ => none
  | .done _ [] => none
  | .done value (.array items :: stack) =>
    match token with
    | .comma => some (.value (.array (value :: items) :: stack))
    | .closeBracket => some (.done (.array (value :: items).reverse) stack)
    | _ => none
  | .done value (.object fields name :: stack) =>
    match token with
    | .comma => some (.name false ((name, value) :: fields) stack)
    | .closeBrace => some (.done (.ofFields ((name, value) :: fields).reverse) stack)
    | _ => none

/-- Reads a JSON text, which holds one value and blanks. -/
def parse? (text : String) : Option Value :=
  match (tokens? .between text.toList).bind fun tokens =>
      tokens.foldlM parseStep (.value []) with
  | some (.done value []) => some value
  | _ => none

end HeaderBindings.Json
