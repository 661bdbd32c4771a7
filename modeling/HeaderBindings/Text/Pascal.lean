import HeaderBindings.Text.Slice

/-!
# Pascal case

Words are found in the pieces between characters that are not alphanumeric: a word ends where a
lower-case letter meets an upper-case one, and before the last letter of a run of capitals that a
lower-case letter follows.  Each word is written with a capital first letter.
-/

namespace HeaderBindings.Text

/-- What the last cased letter of the word at hand was. -/
inductive LetterMode where
  | boundary
  | lower
  | upper
  deriving Repr, DecidableEq

/-- The mode after a character; an uncased character keeps the mode. -/
def LetterMode.after (mode : LetterMode) (c : Char) : LetterMode :=
  if isLowercase c then .lower else if isUppercase c then .upper else mode

/--
Splits a piece into words.  `current` holds the characters of the word at hand in reverse.  The
last character of a piece joins the word at hand, whatever its case.
-/
def wordsOfPiece (mode : LetterMode) (current : List Char) : List Char → List (List Char)
  | [] => if current.isEmpty then [] else [current.reverse]
  | [c] => [(c :: current).reverse]
  | c :: next :: rest =>
    let after := mode.after c
    if after = .lower ∧ isUppercase next then
      (c :: current).reverse :: wordsOfPiece .boundary [] (next :: rest)
    else if mode = .upper ∧ isUppercase c ∧ isLowercase next then
      current.reverse :: wordsOfPiece .boundary [c] (next :: rest)
    else
      wordsOfPiece after (c :: current) (next :: rest)

/-- The words of a name. -/
def nameWords (name : List Char) : List (List Char) :=
  (name.splitOnP fun c => !isAlphanumeric c).flatMap (wordsOfPiece .boundary [])

/-- The small letters of the rest of a word; a capital sigma at its end takes the final form. -/
def smallRest : List Char → List Char
  | [] => []
  | ['Σ'] => ['ς']
  | c :: rest => small c ++ smallRest rest

/-- A word with a capital first letter and small letters after it. -/
def capitalized : List Char → List Char
  | [] => []
  | c :: rest => capital c ++ smallRest rest

/-- A name in pascal case, with the dimension marks `2D` and `3D` in capitals. -/
def pascal (name : String) : String :=
  let joined := String.ofList ((nameWords name.toList).flatMap capitalized)
  replaceAll (replaceAll joined "2d" "2D") "3d" "3D"

/-- Whether a cased letter comes first once the case-ignorable characters are passed over. -/
def meetsCased (text : List Char) : Bool :=
  match text.dropWhile isCaseIgnorable with
  | [] => false
  | c :: _ => isCased c

/--
The small form of a text.  A capital sigma takes its final form after a cased letter and before
the end of a word; `before` holds the characters already passed, in reverse.
-/
def smallAfter (before : List Char) : List Char → List Char
  | [] => []
  | c :: rest =>
    let form :=
      if c = 'Σ' then
        if meetsCased before && !meetsCased rest then ['ς'] else ['σ']
      else
        small c
    form ++ smallAfter (c :: before) rest

/-- The small form of a text. -/
def lowercase (text : String) : String :=
  .ofList (smallAfter [] text.toList)

end HeaderBindings.Text
