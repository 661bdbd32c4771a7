import HeaderBindings.Text.WordRun
import Mathlib.Data.List.Basic

/-!
# The characters of word runs

Segmenting a text never mixes the two classes of characters, so every word run
of a text consists of word characters, none of which is a blank.  Texts that
are joined outside a word run keep their word runs.
-/

namespace HeaderBindings.Text

theorem isWord_of_mem_segments {text run : List Char} (member : .word run ∈ segments text) :
    ∀ c ∈ run, isWord c = true := by
  induction text generalizing run with
  | nil => cases member
  | cons c rest ih =>
      change .word run ∈ consChar c (segments rest) at member
      unfold consChar at member
      split at member
      · rename_i isWordChar
        split at member
        · rename_i first later split
          rcases List.mem_cons.mp member with equal | inLater
          · cases equal
            intro d inRun
            rcases List.mem_cons.mp inRun with rfl | inFirst
            · exact isWordChar
            · exact ih (by rw [split]; exact List.mem_cons_self) d inFirst
          · exact ih (by rw [split]; exact List.mem_cons_of_mem _ inLater)
        · rcases List.mem_cons.mp member with equal | inLater
          · cases equal
            intro d inRun
            rw [List.mem_singleton.mp inRun]
            exact isWordChar
          · exact ih inLater
      · split at member
        · rename_i first later split
          rcases List.mem_cons.mp member with equal | inLater
          · cases equal
          · exact ih (by rw [split]; exact List.mem_cons_of_mem _ inLater)
        · rcases List.mem_cons.mp member with equal | inLater
          · cases equal
          · exact ih inLater

theorem mem_of_mem_occurrencesAfter
    {before : List Char} {parts : List Segment} {occurrence : Occurrence}
    (member : occurrence ∈ occurrencesAfter before parts) : .word occurrence.word ∈ parts := by
  induction parts generalizing before with
  | nil => cases member
  | cons part rest ih =>
      cases part with
      | gap run =>
          rw [occurrencesAfter] at member
          exact List.mem_cons_of_mem _ (ih member)
      | word run =>
          rw [occurrencesAfter] at member
          rcases List.mem_cons.mp member with rfl | later
          · exact List.mem_cons_self
          · exact List.mem_cons_of_mem _ (ih later)

theorem after_suffix_of_mem_occurrences
    {text : List Char} {occurrence : Occurrence} (member : occurrence ∈ occurrences text) :
    occurrence.after <:+ text := by
  have inParts {before : List Char} {parts : List Segment}
      (member : occurrence ∈ occurrencesAfter before parts) :
      occurrence.after <:+ flatten parts := by
    induction parts generalizing before with
    | nil => cases member
    | cons part rest ih =>
        have later : flatten rest <:+ flatten (part :: rest) := List.suffix_append _ _
        cases part with
        | gap run =>
            rw [occurrencesAfter] at member
            exact (ih member).trans later
        | word run =>
            rw [occurrencesAfter] at member
            rcases List.mem_cons.mp member with rfl | isLater
            · exact later
            · exact (ih isLater).trans later
  have suffix := inParts member
  rwa [flatten_segments] at suffix

/-- The first word run of a text consists of word characters. -/
theorem isWord_of_firstWord? {text name : String} (found : firstWord? text = some name) :
    ∀ c ∈ name.toList, isWord c = true := by
  rw [firstWord?, Option.map_eq_some_iff] at found
  rcases found with ⟨occurrence, first, rfl⟩
  rw [String.toList_ofList]
  exact isWord_of_mem_segments (mem_of_mem_occurrencesAfter (List.mem_of_head? first))

/-! ## Word characters and blanks -/

/-- The code points of the blanks. -/
def blankPoints : List Nat :=
  List.range' 9 5 ++ [0x20, 0x85, 0xA0, 0x1680] ++ List.range' 0x2000 11 ++
    [0x2028, 0x2029, 0x202F, 0x205F, 0x3000]

theorem mem_blankPoints {c : Char} (blank : isBlank c = true) : c.toNat ∈ blankPoints := by
  simp only [isBlank, Bool.or_eq_true, Bool.and_eq_true, decide_eq_true_eq, beq_iff_eq] at blank
  simp only [blankPoints, List.mem_append, List.mem_range'_1, List.mem_cons, List.not_mem_nil]
  omega

/-- The characters of a class without any of the blanks are no blanks. -/
theorem isBlank_of_apart {inClass : Char → Bool} {c : Char}
    (apart : ∀ point ∈ blankPoints, inClass (Char.ofNat point) = false)
    (isMember : inClass c = true) : isBlank c = false := by
  rw [Bool.eq_false_iff]
  intro blank
  have notMember := apart c.toNat (mem_blankPoints blank)
  rw [Char.ofNat_toNat, isMember] at notMember
  cases notMember

/-- No word character is a blank. -/
theorem isBlank_of_isWord {c : Char} (isWordChar : isWord c = true) : isBlank c = false :=
  isBlank_of_apart (by decide +kernel) isWordChar

theorem isWord_of_isBlank {c : Char} (blank : isBlank c = true) : isWord c = false := by
  rw [Bool.eq_false_iff]
  intro isWordChar
  rw [isBlank_of_isWord isWordChar] at blank
  cases blank

theorem ne_of_isWord {c d : Char} (isWordChar : isWord c = true) (notWord : isWord d = false) :
    c ≠ d := by
  rintro rfl
  rw [isWordChar] at notWord
  cases notWord

/-! ## Word runs of joined texts -/

/-- The word runs of a text that follows `before`. -/
def occurrencesFrom (before text : List Char) : List Occurrence :=
  occurrencesAfter before (segments text)

/-- An occurrence in front of more text. -/
def Occurrence.extend (more : List Char) (occurrence : Occurrence) : Occurrence :=
  { occurrence with after := occurrence.after ++ more }

section

variable {before text rest : List Char} {c d : Char}

theorem segments_cons (c : Char) (rest : List Char) :
    segments (c :: rest) = consChar c (segments rest) :=
  rfl

theorem consChar_gap (isGap : isWord c = false) (parts : List Segment) :
    consChar c parts =
      match parts with
      | .gap run :: rest => .gap (c :: run) :: rest
      | other => .gap [c] :: other := by
  unfold consChar
  rw [isGap]
  rfl

theorem consChar_word (isWordChar : isWord c = true) (parts : List Segment) :
    consChar c parts =
      match parts with
      | .word run :: rest => .word (c :: run) :: rest
      | other => .word [c] :: other := by
  unfold consChar
  rw [isWordChar]
  rfl

theorem occurrencesFrom_gap (isGap : isWord c = false) :
    occurrencesFrom before (c :: rest) = occurrencesFrom (before ++ [c]) rest := by
  rw [occurrencesFrom, occurrencesFrom, segments_cons, consChar_gap isGap]
  cases segments rest with
  | nil => rfl
  | cons first later =>
      cases first with
      | word run => rfl
      | gap run => rw [occurrencesAfter, occurrencesAfter, List.append_assoc, List.singleton_append]

/-- A text that does not start with a word character does not start with a word run. -/
theorem segments_gap (isGap : rest.head?.any isWord = false) :
    ∀ run later, segments rest ≠ .word run :: later := by
  intro run later equal
  cases rest with
  | nil => cases equal
  | cons d rest =>
      have notWord : isWord d = false := by simpa using isGap
      rw [segments_cons, consChar_gap notWord] at equal
      split at equal <;> cases equal

theorem segments_word (rest : List Char) (isStart : isWord d = true) :
    ∃ run later, segments (d :: rest) = .word run :: later := by
  rw [segments_cons, consChar_word isStart]
  split
  · exact ⟨_, _, rfl⟩
  · exact ⟨_, _, rfl⟩

theorem occurrencesFrom_last (isLast : isWord c = true) (ends : rest.head?.any isWord = false) :
    occurrencesFrom before (c :: rest) =
      ⟨before, [c], rest⟩ :: occurrencesFrom (before ++ [c]) rest := by
  have whole := flatten_segments rest
  have notWord := segments_gap ends
  rw [occurrencesFrom, occurrencesFrom, segments_cons, consChar_word isLast]
  generalize segments rest = parts at whole notWord
  cases parts with
  | nil => rw [← whole]; rfl
  | cons first later =>
      cases first with
      | word run => exact absurd rfl (notWord run later)
      | gap run => rw [← whole]; rfl

/-- A word run grows at its start. -/
theorem occurrencesFrom_more (before rest : List Char)
    (isMore : isWord c = true) (isStart : isWord d = true) :
    ∃ run after later,
      occurrencesFrom (before ++ [c]) (d :: rest) = ⟨before ++ [c], run, after⟩ :: later ∧
        occurrencesFrom before (c :: d :: rest) = ⟨before, c :: run, after⟩ :: later := by
  rcases segments_word rest isStart with ⟨run, parts, split⟩
  refine ⟨run, flatten parts, occurrencesAfter (before ++ [c] ++ run) parts, ?_, ?_⟩
  · rw [occurrencesFrom, split]
    rfl
  · rw [occurrencesFrom, segments_cons, consChar_word isMore, split]
    simp [occurrencesAfter]

/-- The word runs of two texts that are joined outside a word run. -/
theorem occurrencesFrom_append {more : List Char} (apart : more.head?.any isWord = false) :
    occurrencesFrom before (text ++ more) =
      (occurrencesFrom before text).map (Occurrence.extend more) ++
        occurrencesFrom (before ++ text) more := by
  induction text generalizing before with
  | nil => rw [List.nil_append, List.append_nil]; rfl
  | cons c rest ih =>
      have shifted : before ++ c :: rest = before ++ [c] ++ rest := by simp
      rw [List.cons_append, shifted]
      cases isWordChar : isWord c with
      | false => rw [occurrencesFrom_gap isWordChar, occurrencesFrom_gap isWordChar, ih]
      | true =>
          cases rest with
          | nil =>
              rw [occurrencesFrom_last isWordChar (by simpa using apart),
                occurrencesFrom_last isWordChar rfl, ih]
              rfl
          | cons d rest =>
              cases isNext : isWord d with
              | false =>
                  rw [occurrencesFrom_last isWordChar (by simpa using isNext),
                    occurrencesFrom_last isWordChar (by simpa using isNext), ih]
                  rfl
              | true =>
                  rcases occurrencesFrom_more before rest isWordChar isNext
                    with ⟨run, after, later, shorter, longer⟩
                  rcases occurrencesFrom_more before (rest ++ more) isWordChar isNext
                    with ⟨run', after', later', shorter', longer'⟩
                  have joined := @ih (before ++ [c])
                  rw [List.cons_append, shorter, shorter', List.map_cons, List.cons_append,
                    List.cons.injEq] at joined
                  rcases joined with ⟨first, others⟩
                  cases first
                  rw [List.cons_append, longer, longer', others]
                  rfl

/-- The word runs of two texts, the first of which does not end in a word run. -/
theorem occurrencesFrom_append_of_gap {more : List Char}
    (ends : text.getLast?.any isWord = false) :
    occurrencesFrom before (text ++ more) =
      (occurrencesFrom before text).map (Occurrence.extend more) ++
        occurrencesFrom (before ++ text) more := by
  rcases List.eq_nil_or_concat' text with rfl | ⟨front, c, rfl⟩
  · rw [List.nil_append, List.append_nil]
    rfl
  · have isGap : isWord c = false := by simpa using ends
    have whole (more : List Char) :
        occurrencesFrom before (front ++ c :: more) =
          (occurrencesFrom before front).map (Occurrence.extend (c :: more)) ++
            occurrencesFrom (before ++ (front ++ [c])) more := by
      rw [occurrencesFrom_append (by simpa using isGap), occurrencesFrom_gap isGap,
        List.append_assoc]
    have shorter := whole []
    rw [show occurrencesFrom (before ++ (front ++ [c])) [] = [] from rfl, List.append_nil]
      at shorter
    rw [shorter, List.append_assoc, List.singleton_append, whole more, List.map_map]
    congr 1
    apply List.map_congr_left
    intro word _
    simp [Occurrence.extend]

/-- A character outside the words at the end of a text stands behind all of its word runs. -/
theorem occurrences_concat (isGap : isWord c = false) :
    occurrences (text ++ [c]) = (occurrences text).map (Occurrence.extend [c]) := by
  have joined : occurrencesFrom [] (text ++ [c]) =
      (occurrencesFrom [] text).map (Occurrence.extend [c]) ++ occurrencesFrom ([] ++ text) [c] :=
    occurrencesFrom_append (by simpa using isGap)
  rw [occurrencesFrom_gap isGap] at joined
  exact joined.trans (List.append_nil _)

/-- A text that starts with a whole word run. -/
theorem occurrencesFrom_run {run : List Char} (nonempty : run ≠ [])
    (isRun : ∀ c ∈ run, isWord c = true) (ends : rest.head?.any isWord = false) :
    occurrencesFrom before (run ++ rest) =
      ⟨before, run, rest⟩ :: occurrencesFrom (before ++ run) rest := by
  induction run generalizing before with
  | nil => exact absurd rfl nonempty
  | cons c run ih =>
      rcases List.forall_mem_cons.mp isRun with ⟨isFirst, isRest⟩
      cases run with
      | nil => exact occurrencesFrom_last isFirst ends
      | cons d run =>
          rcases occurrencesFrom_more before (run ++ rest) isFirst (isRest d List.mem_cons_self)
            with ⟨word, after, later, shorter, longer⟩
          have further := @ih (before ++ [c]) (List.cons_ne_nil d run) isRest
          rw [List.cons_append, shorter, List.cons.injEq] at further
          rcases further with ⟨first, others⟩
          cases first
          rw [List.cons_append, List.cons_append, longer, others]
          simp

/-- A whole word run is an occurrence of its own, between those before it and those after it. -/
theorem occurrences_around {run : List Char} (nonempty : run ≠ [])
    (isRun : ∀ c ∈ run, isWord c = true)
    (starts : before.getLast?.any isWord = false) (ends : rest.head?.any isWord = false) :
    occurrences (before ++ (run ++ rest)) =
      (occurrences before).map (Occurrence.extend (run ++ rest)) ++
        ⟨before, run, rest⟩ :: occurrencesFrom (before ++ run) rest := by
  have whole : occurrencesFrom [] (before ++ (run ++ rest)) =
      (occurrencesFrom [] before).map (Occurrence.extend (run ++ rest)) ++
        occurrencesFrom ([] ++ before) (run ++ rest) :=
    occurrencesFrom_append_of_gap starts
  rwa [List.nil_append, occurrencesFrom_run nonempty isRun ends] at whole

/-- A word run at the end of a text is its last occurrence. -/
theorem getLast?_occurrences {run : List Char} (nonempty : run ≠ [])
    (isRun : ∀ c ∈ run, isWord c = true) (starts : before.getLast?.any isWord = false) :
    (occurrences (before ++ run)).getLast? = some ⟨before, run, []⟩ := by
  have whole := occurrences_around nonempty isRun starts (rfl : ([].head?).any isWord = false)
  rw [List.append_nil] at whole
  rw [whole]
  exact List.getLast?_concat

/-- What follows an occurrence stands in the text. -/
theorem mem_of_next? {word : Occurrence} (member : word ∈ occurrences text)
    (next : word.next? = some c) : c ∈ text :=
  (after_suffix_of_mem_occurrences member).subset
    ((List.dropWhile_suffix isBlank).subset (List.mem_of_head? next))

end

/-! ## Rewriting word runs -/

section

variable {rewrite : List Char → List Char} {text rest : List Char} {c : Char}

theorem segments_run {run : List Char} (nonempty : run ≠ []) (isRun : ∀ c ∈ run, isWord c = true) :
    segments run = [.word run] := by
  induction run with
  | nil => exact absurd rfl nonempty
  | cons c run ih =>
      rcases List.forall_mem_cons.mp isRun with ⟨isFirst, isRest⟩
      rw [segments_cons, consChar_word isFirst]
      cases run with
      | nil => rfl
      | cons d run => rw [ih (List.cons_ne_nil d run) isRest]

theorem mapWords_run {run : List Char} (nonempty : run ≠ [])
    (isRun : ∀ c ∈ run, isWord c = true) : mapWords rewrite run = rewrite run := by
  rw [mapWords, segments_run nonempty isRun]
  simp

theorem mapWords_gap (isGap : isWord c = false) :
    mapWords rewrite (c :: rest) = c :: mapWords rewrite rest := by
  rw [mapWords, mapWords, segments_cons, consChar_gap isGap]
  cases segments rest with
  | nil => rfl
  | cons first later =>
      cases first with
      | word run => rfl
      | gap run => rfl

/-- Rewriting the word runs keeps what stands between them. -/
theorem mem_mapWords (member : c ∈ text) (isGap : isWord c = false) :
    c ∈ mapWords rewrite text := by
  rw [← flatten_segments text] at member
  rcases List.mem_flatMap.mp member with ⟨segment, inSegments, inSegment⟩
  refine List.mem_flatMap.mpr ⟨segment, inSegments, ?_⟩
  cases segment with
  | word run =>
      have isWordChar := isWord_of_mem_segments inSegments c inSegment
      rw [isGap] at isWordChar
      cases isWordChar
  | gap run => exact inSegment

end

end HeaderBindings.Text
