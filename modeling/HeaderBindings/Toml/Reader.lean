import HeaderBindings.Toml.Scalar
import HeaderBindings.Toml.Token
import HeaderBindings.Toml.Value

/-!
# Reading TOML

A document is a sequence of headers and of keys with values, each on a line of its own.
-/

namespace HeaderBindings.Toml

/-- Whether a token is a blank. -/
def Token.isBlank : Token → Bool
  | .blank _ => true
  | _ => false

/-- Whether a token is a blank or a line end. -/
def Token.isSpace (token : Token) : Bool :=
  token.isBlank || token == .newline

/-- A character of a bare key. -/
def isBareKeyChar (c : Char) : Bool :=
  c.isAlphanum || c == '_' || c == '-'

/-- The key that a token is. -/
def Token.key? : Token → Option String
  | .word run => if run.all isBareKeyChar then some (.ofList run) else none
  | .text false value => some value
  | _ => none

/-- The keys of a dotted key, given without blanks. -/
def dottedKeys? : List Token → Option (List String)
  | [token] => token.key?.map ([·])
  | token :: .dot :: rest => do pure ((← token.key?) :: (← dottedKeys? rest))
  | _ => none

/-- How many keys a dotted key may have, and how many arrays and tables between braces may be open
at one place. -/
def maxDepth : Nat := 80

/-- A dotted key: the keys on the way and the last one. -/
def keyPath? (tokens : List Token) : Option (List String × String) := do
  let keys ← dottedKeys? (tokens.filter fun token => !token.isBlank)
  if maxDepth < keys.length then none
  else pure (keys.dropLast, ← keys.getLast?)

/-- The tokens before the first one that equals `token`, and the tokens after it. -/
def splitAt? (token : Token) (tokens : List Token) : Option (List Token × List Token) :=
  match tokens.dropWhile (· != token) with
  | [] => none
  | _ :: rest => some (tokens.takeWhile (· != token), rest)

/-- The longest run of words and dots in front. -/
def scalarRun : List Token → List Char × List Token
  | .word run :: rest => (run ++ (scalarRun rest).1, (scalarRun rest).2)
  | .dot :: rest => ('.' :: (scalarRun rest).1, (scalarRun rest).2)
  | rest => ([], rest)

/-- Whether a text starts like a time of day. -/
def startsClock : List Char → Bool
  | a :: b :: ':' :: _ => a.isDigit && b.isDigit
  | _ => false

/-- Reads a scalar; one blank may stand between a date and a time. -/
def readScalar (tokens : List Token) : Option (Value × List Token) :=
  let (run, rest) := scalarRun tokens
  let (text, rest) :=
    match rest with
    | .blank ' ' :: after =>
      let (time, others) := scalarRun after
      if isDate run && startsClock time then (run ++ ' ' :: time, others) else (run, rest)
    | _ => (run, rest)
  (scalar? text).map fun value => (value, rest)

/-- The tokens without the blanks and line ends after the last of the others. -/
def dropSpaceEnd (tokens : List Token) : List Token :=
  (tokens.reverse.dropWhile Token.isSpace).reverse

mutual

/-- Reads a value, inside of which up to `depth` containers may be open at one place; `fuel` bounds
the depth of the recursion. -/
def readValue : Nat → Nat → List Token → Option (Value × List Token)
  | 0, _, _ => none
  | fuel + 1, depth, tokens =>
    match tokens, depth with
    | .text _ value :: rest, _ => some (.string value, rest)
    | .openBracket :: rest, inner + 1 => readItems fuel inner [] rest
    | .openBrace :: rest, inner + 1 => readFields fuel inner { origin := .inline, fields := [] } rest
    | other, _ => readScalar other

/-- Reads the items of an array up to its end; `items` holds those before, in reverse. -/
def readItems : Nat → Nat → List Value → List Token → Option (Value × List Token)
  | 0, _, _, _ => none
  | fuel + 1, depth, items, tokens =>
    match tokens.dropWhile Token.isSpace with
    | .closeBracket :: rest => some (.array false items.reverse, rest)
    | other => do
      let (item, rest) ← readValue fuel depth other
      match rest.dropWhile Token.isSpace with
      | .comma :: rest => readItems fuel depth (item :: items) rest
      | .closeBracket :: rest => pure (.array false (item :: items).reverse, rest)
      | _ => none

/-- Reads the fields of a table between braces up to its end.  Lines may end anywhere in it except
inside a dotted key. -/
def readFields : Nat → Nat → Table → List Token → Option (Value × List Token)
  | 0, _, _, _ => none
  | fuel + 1, depth, table, tokens =>
    match tokens.dropWhile Token.isSpace with
    | .closeBrace :: rest => some (table.value, rest)
    | other => do
      let (keys, after) ← splitAt? .equals other
      let (path, key) ← keyPath? (dropSpaceEnd keys)
      let (value, rest) ← readValue fuel depth (after.dropWhile Token.isSpace)
      let table ← table.insert? path key value
      match rest.dropWhile Token.isSpace with
      | .comma :: rest => readFields fuel depth table rest
      | .closeBrace :: rest => pure (table.value, rest)
      | _ => none

end

/-- A document that is being read, with the header that new keys belong to. -/
structure Draft where
  root : Table
  header : List String

/-- The tokens after the end of a line. -/
def endLine? (tokens : List Token) : Option (List Token) :=
  match tokens.dropWhile Token.isBlank with
  | [] => some []
  | .newline :: rest => some rest
  | _ => none

/-- Reads a header of an array of tables, after its opening brackets. -/
def readArrayHeader (draft : Draft) (tokens : List Token) : Option (Draft × List Token) := do
  let (keys, after) ← splitAt? .closeBracket tokens
  match after with
  | .closeBracket :: rest =>
    let (path, key) ← keyPath? keys
    pure ({ root := ← draft.root.appendTable? path key, header := path ++ [key] }, rest)
  | _ => none

/-- Reads a header of a table, after its opening bracket. -/
def readHeader (draft : Draft) (tokens : List Token) : Option (Draft × List Token) := do
  let (keys, rest) ← splitAt? .closeBracket tokens
  let (path, key) ← keyPath? keys
  pure ({ root := ← draft.root.openTable? path key, header := path ++ [key] }, rest)

/-- Reads a key and its value. -/
def readKeyValue (draft : Draft) (tokens : List Token) : Option (Draft × List Token) := do
  let (keys, after) ← splitAt? .equals tokens
  let (path, key) ← keyPath? keys
  let (value, rest) ← readValue (2 * tokens.length) maxDepth (after.dropWhile Token.isBlank)
  let root ← draft.root.changeAt false (Table.insert? path key value) draft.header
  pure ({ draft with root }, rest)

/-- Reads the lines of a document; `fuel` bounds their number. -/
def readLines : Nat → Draft → List Token → Option Table
  | 0, _, _ => none
  | fuel + 1, draft, tokens =>
    match tokens.dropWhile Token.isSpace with
    | [] => some draft.root
    | other => do
      let (draft, rest) ←
        match other with
        | .openBracket :: .openBracket :: rest => readArrayHeader draft rest
        | .openBracket :: rest => readHeader draft rest
        | _ => readKeyValue draft other
      readLines fuel draft (← endLine? rest)

/-- Reads a document. -/
def parse? (text : String) : Option Table := do
  let tokens ← tokens? text.toList
  readLines (tokens.length + 1) { root := { origin := .header, fields := [] }, header := [] } tokens

end HeaderBindings.Toml
