import HeaderBindings.Proofs.Text.WordRun
import Mathlib.Data.List.DropRight
import Mathlib.Data.List.Forall2

/-!
# Segmented texts

The segments of a text are the one way to cut it into runs that alternate between the two classes
of characters.  So a text that is put together from such runs has these runs for its segments, and
a pass that rewrites the segments of a text one by one, each within its class, can be followed by
the next such pass on the segments themselves.
-/

namespace HeaderBindings.Text

/-! ## Runs of one class -/

/-- Whether a segment is a word run. -/
def Segment.isWordRun : Segment → Bool
  | .word _ => true
  | .gap _ => false

/-- The segment of a class with the given characters. -/
def Segment.ofRun (isWordRun : Bool) (run : List Char) : Segment :=
  if isWordRun then .word run else .gap run

/-- A segment that is a run of characters of its class. -/
structure Segment.IsRun (segment : Segment) : Prop where
  nonempty : segment.chars ≠ []
  uniform : ∀ c ∈ segment.chars, isWord c = segment.isWordRun

section Runs

variable {first : Segment} {rest : List Segment} {run : List Char} {c : Char}

@[simp]
theorem Segment.chars_word (run : List Char) : (Segment.word run).chars = run :=
  rfl

@[simp]
theorem Segment.chars_gap (run : List Char) : (Segment.gap run).chars = run :=
  rfl

@[simp]
theorem Segment.chars_ofRun (isWordRun : Bool) (run : List Char) :
    (Segment.ofRun isWordRun run).chars = run := by
  cases isWordRun <;> rfl

@[simp]
theorem Segment.isWordRun_ofRun (isWordRun : Bool) (run : List Char) :
    (Segment.ofRun isWordRun run).isWordRun = isWordRun := by
  cases isWordRun <;> rfl

@[simp]
theorem Segment.ofRun_chars (segment : Segment) :
    Segment.ofRun segment.isWordRun segment.chars = segment := by
  cases segment <;> rfl

theorem Segment.isRun_word :
    (Segment.word run).IsRun ↔ run ≠ [] ∧ ∀ c ∈ run, isWord c = true :=
  ⟨fun isRun => ⟨isRun.nonempty, isRun.uniform⟩, fun ⟨nonempty, uniform⟩ => ⟨nonempty, uniform⟩⟩

theorem Segment.isRun_gap :
    (Segment.gap run).IsRun ↔ run ≠ [] ∧ ∀ c ∈ run, isWord c = false :=
  ⟨fun isRun => ⟨isRun.nonempty, isRun.uniform⟩, fun ⟨nonempty, uniform⟩ => ⟨nonempty, uniform⟩⟩

@[simp]
theorem flatten_nil : flatten [] = [] :=
  rfl

@[simp]
theorem flatten_cons (first : Segment) (rest : List Segment) :
    flatten (first :: rest) = first.chars ++ flatten rest :=
  List.flatMap_cons

theorem consChar_nil (c : Char) : consChar c [] = [.ofRun (isWord c) [c]] := by
  unfold consChar
  cases isWord c <;> rfl

theorem consChar_same (same : first.isWordRun = isWord c) :
    consChar c (first :: rest) = .ofRun (isWord c) (c :: first.chars) :: rest := by
  unfold consChar
  rw [← same]
  cases first <;> rfl

theorem consChar_other (other : first.isWordRun ≠ isWord c) :
    consChar c (first :: rest) = .ofRun (isWord c) [c] :: first :: rest := by
  have isOther : isWord c = !first.isWordRun := Bool.eq_not.mpr other.symm
  unfold consChar
  rw [isOther]
  cases first <;> rfl

end Runs

/-! ## Runs of both classes in turn -/

/-- Runs that alternate between the two classes. -/
inductive Alternating : List Segment → Prop
  | nil : Alternating []
  | cons {first : Segment} {rest : List Segment} (isRun : first.IsRun)
      (apart : ∀ next ∈ rest.head?, next.isWordRun ≠ first.isWordRun) (later : Alternating rest) :
      Alternating (first :: rest)

namespace Alternating

variable {first : Segment} {parts rest : List Segment} {word gap : List Char}

theorem tail (alternating : Alternating (first :: rest)) : Alternating rest := by
  cases alternating with
  | cons _ _ later => exact later

theorem isRun (alternating : Alternating (first :: rest)) : first.IsRun := by
  cases alternating with
  | cons isRun _ _ => exact isRun

theorem apart (alternating : Alternating (first :: rest)) :
    ∀ next ∈ rest.head?, next.isWordRun ≠ first.isWordRun := by
  cases alternating with
  | cons _ apart _ => exact apart

/-- The first character of alternating runs is of the class of the first run. -/
theorem head?_flatten (alternating : Alternating parts) :
    (flatten parts).head?.any isWord = parts.head?.any Segment.isWordRun := by
  cases alternating with
  | nil => rfl
  | @cons first rest isRun _ _ =>
      cases chars : first.chars with
      | nil => exact absurd chars isRun.nonempty
      | cons c run =>
          have uniform := isRun.uniform c (by rw [chars]; exact List.mem_cons_self)
          simp [chars, uniform]

theorem head?_gap (alternating : Alternating (.word word :: rest)) :
    rest.head?.any Segment.isWordRun = false := by
  cases rest with
  | nil => rfl
  | cons next rest => simpa [Segment.isWordRun] using alternating.apart next rfl

/-- No word character follows a word run. -/
theorem head?_after_word (alternating : Alternating (.word word :: rest)) :
    (flatten rest).head?.any isWord = false := by
  rw [alternating.tail.head?_flatten, alternating.head?_gap]

/-- A word character follows a gap, if anything does. -/
theorem head?_after_gap (alternating : Alternating (.gap gap :: rest)) :
    ∀ c ∈ (flatten rest).head?, isWord c = true := by
  have isClass := alternating.tail.head?_flatten
  intro c isHead
  rw [Option.mem_def.mp isHead, Option.any_some] at isClass
  rw [isClass]
  cases rest with
  | nil => cases isHead
  | cons next rest => simpa [Segment.isWordRun] using alternating.apart next rfl

theorem consChar (alternating : Alternating parts) (c : Char) : Alternating (consChar c parts) := by
  have started : (Segment.ofRun (isWord c) [c]).IsRun := ⟨by simp, by simp⟩
  cases parts with
  | nil =>
      rw [consChar_nil]
      exact .cons started (fun _ isNext => nomatch isNext) .nil
  | cons first rest =>
      by_cases same : first.isWordRun = isWord c
      · have longer : (Segment.ofRun (isWord c) (c :: first.chars)).IsRun := by
          refine ⟨by simp, ?_⟩
          simpa [same] using alternating.isRun.uniform
        rw [consChar_same same]
        exact .cons longer (by simpa [same] using alternating.apart) alternating.tail
      · rw [consChar_other same]
        exact .cons started (by simpa using same) alternating

end Alternating

theorem alternating_segments (text : List Char) : Alternating (segments text) := by
  induction text with
  | nil => exact .nil
  | cons c rest ih => exact ih.consChar c

/-- A run that is put in front of parts of the other class, character by character. -/
theorem foldr_consChar {isClass : Bool} {rest : List Segment} {run : List Char}
    (nonempty : run ≠ []) (uniform : ∀ c ∈ run, isWord c = isClass)
    (apart : ∀ next ∈ rest.head?, next.isWordRun ≠ isClass) :
    run.foldr consChar rest = .ofRun isClass run :: rest := by
  induction run with
  | nil => exact absurd rfl nonempty
  | cons c run ih =>
      rcases List.forall_mem_cons.mp uniform with ⟨rfl, others⟩
      rw [List.foldr_cons]
      cases run with
      | nil =>
          cases rest with
          | nil => exact consChar_nil c
          | cons next rest => exact consChar_other (apart next rfl)
      | cons d run =>
          rw [ih (List.cons_ne_nil d run) others, consChar_same (Segment.isWordRun_ofRun _ _),
            Segment.chars_ofRun]

theorem segments_flatten {parts : List Segment} (alternating : Alternating parts) :
    segments (flatten parts) = parts := by
  induction alternating with
  | nil => rfl
  | @cons first rest isRun apart _ ih =>
      rw [flatten_cons, segments, List.foldr_append]
      change first.chars.foldr consChar (segments (flatten rest)) = _
      rw [ih, foldr_consChar isRun.nonempty isRun.uniform apart, Segment.ofRun_chars]

/-- The segments of a text are the runs that it is put together from. -/
theorem segments_eq_iff {text : List Char} {parts : List Segment} :
    segments text = parts ↔ Alternating parts ∧ flatten parts = text := by
  constructor
  · rintro rfl
    exact ⟨alternating_segments text, flatten_segments text⟩
  · rintro ⟨alternating, rfl⟩
    exact segments_flatten alternating

/-! ## Rewriting the runs -/

/-- A segment with its characters rewritten, depending on its class. -/
def Segment.mapRuns (onWord onGap : List Char → List Char) : Segment → Segment
  | .word run => .word (onWord run)
  | .gap run => .gap (onGap run)

namespace Alternating

variable {parts : List Segment} {onWord onGap : List Char → List Char}

/-- Rewritten runs alternate if each of them is still one of its class. -/
theorem of_forall₂ {others : List Segment} (alternating : Alternating parts)
    (same : List.Forall₂ (fun part other => part.IsRun →
      other.IsRun ∧ other.isWordRun = part.isWordRun) parts others) : Alternating others := by
  induction alternating generalizing others with
  | nil =>
      cases same
      exact .nil
  | @cons first rest isRun apart alternating ih =>
      cases same with
      | @cons _ other _ others here later =>
          rcases here isRun with ⟨otherRun, otherClass⟩
          refine .cons otherRun (fun next isNext => ?_) (ih later)
          rw [otherClass]
          cases later with
          | nil => cases isNext
          | @cons second _ _ _ same _ =>
              cases isNext
              rw [(same alternating.isRun).2]
              exact apart second rfl

theorem mapRuns (alternating : Alternating parts)
    (words : ∀ word, (Segment.word word).IsRun → (Segment.word (onWord word)).IsRun)
    (gaps : ∀ gap, (Segment.gap gap).IsRun → (Segment.gap (onGap gap)).IsRun) :
    Alternating (parts.map (Segment.mapRuns onWord onGap)) := by
  refine alternating.of_forall₂ (List.forall₂_map_right_iff.mpr (List.forall₂_same.mpr ?_))
  intro part _ isRun
  cases part with
  | word run => exact ⟨words run isRun, rfl⟩
  | gap run => exact ⟨gaps run isRun, rfl⟩

/-- Alternating runs that start with a gap are pairs of a gap and a word run, with possibly one more
gap at the end. -/
@[elab_as_elim]
theorem pairs {motive : List Segment → Prop} (nil : motive [])
    (last : ∀ gap, (Segment.gap gap).IsRun → motive [.gap gap])
    (pair : ∀ gap word rest, Alternating (.gap gap :: .word word :: rest) → motive rest →
      motive (.gap gap :: .word word :: rest)) :
    ∀ {parts}, Alternating parts → parts.head?.any Segment.isWordRun = false → motive parts
  | [], _, _ => nil
  | [.gap gap], alternating, _ => last gap alternating.isRun
  | .gap gap :: .word word :: rest, alternating, _ => by
      refine pair gap word rest alternating (pairs nil last pair alternating.tail.tail ?_)
      rw [← alternating.tail.tail.head?_flatten]
      exact alternating.tail.head?_after_word
  | .word _ :: _, _, isGap => nomatch isGap
  | .gap _ :: .gap second :: _, alternating, _ => absurd rfl (alternating.apart (.gap second) rfl)

end Alternating

theorem mapWords_eq_flatten (rewrite : List Char → List Char) (text : List Char) :
    mapWords rewrite text = flatten ((segments text).map (Segment.mapRuns rewrite id)) := by
  rw [mapWords, flatten, List.flatMap_map]
  refine List.flatMap_congr fun part _ => ?_
  cases part <;> rfl

/-! ## Occurrences -/

section Occurrences

variable {text front word after : List Char} {last : Occurrence}

/-- An occurrence stands in its text. -/
theorem eq_of_mem_occurrences {word : Occurrence}
    (member : word ∈ occurrences text) : word.before ++ (word.word ++ word.after) = text := by
  have inParts (parts : List Segment) : ∀ before, word ∈ occurrencesAfter before parts →
      word.before ++ (word.word ++ word.after) = before ++ flatten parts := by
    induction parts with
    | nil => exact fun _ impossible => nomatch impossible
    | cons first rest ih =>
        intro before member
        cases first with
        | gap run =>
            rw [ih _ member, flatten_cons, Segment.chars_gap, List.append_assoc]
        | word run =>
            rcases List.mem_cons.mp member with rfl | later
            · rfl
            · rw [ih _ later, flatten_cons, Segment.chars_word, List.append_assoc]
  rw [inParts (segments text) [] member, flatten_segments, List.nil_append]

/-- The word run in which a text ends, with the text behind it. -/
def lastWord? (text after : List Char) : Option Occurrence :=
  if text.rtakeWhile isWord = [] then none
  else some ⟨text.rdropWhile isWord, text.rtakeWhile isWord, after⟩

theorem rtakeWhile_isWord (ends : front.getLast?.any isWord = false) :
    front.rtakeWhile isWord = [] := by
  rw [List.rtakeWhile_eq_nil_iff]
  intro nonempty isLast
  rw [List.getLast?_eq_some_getLast nonempty, Option.any_some, isLast] at ends
  cases ends

theorem lastWord?_eq_none (ends : front.getLast?.any isWord = false) :
    lastWord? front after = none :=
  if_pos (rtakeWhile_isWord ends)

theorem lastWord?_append (isRun : (Segment.word word).IsRun)
    (ends : front.getLast?.any isWord = false) :
    lastWord? (front ++ word) after = some ⟨front, word, after⟩ := by
  rcases Segment.isRun_word.mp isRun with ⟨nonempty, uniform⟩
  have isWords : ∀ c ∈ word.reverse, isWord c = true := by simpa using uniform
  have taken : (front ++ word).rtakeWhile isWord = word := by
    have stops := rtakeWhile_isWord ends
    rw [List.rtakeWhile, List.reverse_eq_nil_iff] at stops
    rw [List.rtakeWhile, List.reverse_append, List.takeWhile_append_of_pos isWords, stops,
      List.append_nil, List.reverse_reverse]
  have split := @List.rdropWhile_append_rtakeWhile _ isWord (front ++ word)
  rw [taken] at split
  rw [lastWord?, taken, if_neg nonempty, List.append_cancel_right split]

theorem after_of_lastWord?
    (found : lastWord? text after = some last) : last.after = after := by
  rw [lastWord?] at found
  split at found
  · cases found
  · cases found
    rfl

theorem length_of_lastWord?
    (found : lastWord? text after = some last) : last.before.length ≤ text.length := by
  rw [lastWord?] at found
  split at found
  · cases found
  · cases found
    exact (List.rdropWhile_prefix isWord text).length_le

/-- The word run in which the text in front of a gap ends is an occurrence. -/
theorem mem_occurrences_of_lastWord?
    (found : lastWord? front after = some last) (ends : after.head?.any isWord = false) :
    last ∈ occurrences (front ++ after) := by
  rw [lastWord?] at found
  split at found
  · cases found
  · rename_i nonempty
    cases found
    have starts : (front.rdropWhile isWord).getLast?.any isWord = false := by
      cases isLast : (front.rdropWhile isWord).getLast? with
      | none => rfl
      | some c =>
          rcases List.mem_getLast?_eq_getLast isLast with ⟨nonempty, rfl⟩
          simpa using List.rdropWhile_last_not isWord front nonempty
    have split : front ++ after =
        front.rdropWhile isWord ++ (front.rtakeWhile isWord ++ after) := by
      rw [← List.append_assoc, List.rdropWhile_append_rtakeWhile]
    rw [split, occurrences_around nonempty (fun c => List.mem_rtakeWhile_imp) starts ends]
    exact List.mem_append_right _ List.mem_cons_self

end Occurrences

end HeaderBindings.Text
