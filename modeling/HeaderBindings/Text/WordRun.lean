import HeaderBindings.Text.Slice

/-!
# Word runs

A text is an alternation of word runs, which are maximal runs of word characters, and of the gaps
between them.  Most rules on declarations and expressions look at one word run and at its
immediate neighbours.
-/

namespace HeaderBindings.Text

/-- A maximal run of word characters, or a maximal run of other characters. -/
inductive Segment where
  | word (run : List Char)
  | gap (run : List Char)
  deriving Repr, DecidableEq

/-- The characters of a segment. -/
def Segment.chars : Segment → List Char
  | .word run => run
  | .gap run => run

/-- Puts one character in front of a segmented text, joining it to the first segment if both are
of one class. -/
def consChar (c : Char) (segments : List Segment) : List Segment :=
  if isWord c then
    match segments with
    | .word run :: rest => .word (c :: run) :: rest
    | other => .word [c] :: other
  else
    match segments with
    | .gap run :: rest => .gap (c :: run) :: rest
    | other => .gap [c] :: other

/-- The segments of a text. -/
def segments (text : List Char) : List Segment :=
  text.foldr consChar []

/-- The characters of a segmented text. -/
def flatten (parts : List Segment) : List Char :=
  parts.flatMap Segment.chars

@[simp]
theorem flatten_consChar (c : Char) (parts : List Segment) :
    flatten (consChar c parts) = c :: flatten parts := by
  unfold consChar
  split <;> split <;> simp [flatten, Segment.chars]

/-- Segmenting loses nothing. -/
@[simp]
theorem flatten_segments (text : List Char) : flatten (segments text) = text := by
  induction text with
  | nil => rfl
  | cons c rest ih =>
    show flatten (consChar c (segments rest)) = c :: rest
    rw [flatten_consChar, ih]

/-- One word run with the text before it and the text after it. -/
structure Occurrence where
  before : List Char
  word : List Char
  after : List Char
  deriving Repr, DecidableEq

/-- The word runs of a segmented text that follows `before`. -/
def occurrencesAfter (before : List Char) : List Segment → List Occurrence
  | [] => []
  | .gap run :: rest => occurrencesAfter (before ++ run) rest
  | .word run :: rest => ⟨before, run, flatten rest⟩ :: occurrencesAfter (before ++ run) rest

/-- The word runs of a text, from left to right. -/
def occurrences (text : List Char) : List Occurrence :=
  occurrencesAfter [] (segments text)

/-- The first word run of a text. -/
def firstWord? (text : String) : Option String :=
  (occurrences text.toList).head?.map fun occurrence => .ofList occurrence.word

/-- The first character after a word run that is not a blank. -/
def Occurrence.next? (occurrence : Occurrence) : Option Char :=
  (occurrence.after.dropWhile isBlank).head?

/-- Rewrites every word run of a text and keeps the gaps. -/
def mapWords (rewrite : List Char → List Char) (text : List Char) : List Char :=
  (segments text).flatMap fun
    | .word run => rewrite run
    | .gap run => run

end HeaderBindings.Text
