import HeaderBindings.Proofs.Text.Slice
import HeaderBindings.Text.Lines

/-!
# Replacement along lines

Replacing the occurrences of a pattern goes through a text once: it takes each
occurrence as a whole and keeps every other character.  An occurrence without
line ends lies in one line, so a text may be replaced line by line.
-/

namespace HeaderBindings.Text

/-- Whether a character ends a line, or is the first of a pair that does. -/
def isLineEnd (c : Char) : Bool :=
  c == '\n' || c == '\r'

section

variable {pattern replacement text front back : List Char} {c : Char}

/-! ## The steps of a replacement -/

theorem replaceFrom_skip (notHere : ¬ pattern <+: c :: text) :
    replaceFrom pattern replacement 0 (c :: text) =
      c :: replaceFrom pattern replacement 0 text := by
  rw [replaceFrom, if_neg (mt List.isPrefixOf_iff_prefix.mp notHere)]

/-- What holds of a text and what comes of it, if it holds behind an occurrence that is replaced and
behind a character that is kept. -/
theorem replaceFrom_induction (nonempty : pattern ≠ []) {motive : List Char → List Char → Prop}
    (nil : motive [] [])
    (here : ∀ back, motive back (replaceFrom pattern replacement 0 back) →
      motive (pattern ++ back) (replacement ++ replaceFrom pattern replacement 0 back))
    (skip : ∀ c back, ¬ pattern <+: c :: back →
      motive back (replaceFrom pattern replacement 0 back) →
      motive (c :: back) (c :: replaceFrom pattern replacement 0 back))
    (text : List Char) : motive text (replaceFrom pattern replacement 0 text) := by
  induction length : text.length using Nat.strongRecOn generalizing text with
  | ind n ih =>
      cases text with
      | nil => exact nil
      | cons c rest =>
          by_cases starts : pattern <+: c :: rest
          · rcases starts with ⟨back, split⟩
            have size := congrArg List.length split
            rw [List.length_append, length] at size
            have shorter := List.length_pos_iff.mpr nonempty
            rw [← split, replaceFrom_match nonempty]
            exact here back (ih back.length (by omega) back rfl)
          · rw [replaceFrom_skip starts]
            refine skip c rest starts (ih rest.length ?_ rest rfl)
            rw [← length]
            exact Nat.lt_succ_self _

/-- A text is kept, or the first occurrence in it is replaced, and what is behind that. -/
theorem replaceFrom_first (nonempty : pattern ≠ []) (text : List Char) :
    replaceFrom pattern replacement 0 text = text ∨
      ∃ front back, text = front ++ (pattern ++ back) ∧
        replaceFrom pattern replacement 0 text =
          front ++ (replacement ++ replaceFrom pattern replacement 0 back) := by
  refine replaceFrom_induction nonempty (motive := fun text result => result = text ∨
    ∃ front back, text = front ++ (pattern ++ back) ∧
      result = front ++ (replacement ++ replaceFrom pattern replacement 0 back)) ?_ ?_ ?_ text
  · exact .inl rfl
  · exact fun back _ => .inr ⟨[], back, rfl, rfl⟩
  · rintro c rest - (kept | ⟨front, back, split, replaced⟩)
    · exact .inl (congrArg _ kept)
    · refine .inr ⟨c :: front, back, ?_, ?_⟩
      · rw [split, List.cons_append]
      · rw [replaced, List.cons_append]

theorem replaceFrom_eq_nil_iff (nonempty : pattern ≠ []) (written : replacement ≠ [])
    (text : List Char) : replaceFrom pattern replacement 0 text = [] ↔ text = [] := by
  rcases replaceFrom_first nonempty text with kept | ⟨front, back, split, replaced⟩
  · rw [kept]
  · rw [replaced, split]
    simp [nonempty, written]

/-! ## Line ends -/

theorem unifyLineEnds_cons (other : c ≠ '\r') (text : List Char) :
    unifyLineEnds (c :: text) = c :: unifyLineEnds text := by
  rw [unifyLineEnds, dropPairedReturns, List.map_cons, if_neg other]
  · rfl
  · exact fun rest isReturn => absurd isReturn other

/-- A carriage return in front of a line feed does not count. -/
theorem unifyLineEnds_pair (isFeed : text.head? = some '\n') :
    unifyLineEnds ('\r' :: text) = unifyLineEnds text := by
  rcases List.head?_eq_some_iff.mp isFeed with ⟨rest, rfl⟩
  exact (unifyLineEnds_cons (by decide) rest).symm

theorem unifyLineEnds_return (notFeed : text.head? ≠ some '\n') :
    unifyLineEnds ('\r' :: text) = '\n' :: unifyLineEnds text := by
  rw [unifyLineEnds, dropPairedReturns]
  · rfl
  · rintro rest - rfl
    exact notFeed rfl

theorem ne_of_isLineEnd {d : Char} (isKept : isLineEnd c = false) (ends : isLineEnd d = true) :
    c ≠ d := by
  rintro rfl
  rw [isKept] at ends
  cases ends

theorem unifyLineEnds_append (free : ∀ c ∈ front, isLineEnd c = false) (text : List Char) :
    unifyLineEnds (front ++ text) = front ++ unifyLineEnds text := by
  induction front with
  | nil => rfl
  | cons c front ih =>
      rcases List.forall_mem_cons.mp free with ⟨isKept, isFree⟩
      rw [List.cons_append, unifyLineEnds_cons (ne_of_isLineEnd isKept rfl), ih isFree,
        List.cons_append]

/-- A pattern without line ends stands at the start of a text wherever its line ends are. -/
theorem prefix_of_prefix_unifyLineEnds (free : ∀ c ∈ pattern, isLineEnd c = false)
    (starts : pattern <+: unifyLineEnds text) : pattern <+: text := by
  induction pattern generalizing text with
  | nil => exact List.nil_prefix
  | cons a pattern ih =>
      rcases List.forall_mem_cons.mp free with ⟨isKept, isFree⟩
      cases text with
      | nil => exact starts
      | cons c rest =>
          by_cases isReturn : c = '\r'
          · subst isReturn
            have feed : (unifyLineEnds ('\r' :: rest)).head? = some '\n' := by
              by_cases isFeed : rest.head? = some '\n'
              · rw [unifyLineEnds_pair isFeed]
                rcases List.head?_eq_some_iff.mp isFeed with ⟨later, rfl⟩
                rw [unifyLineEnds_cons (by decide)]
                rfl
              · rw [unifyLineEnds_return isFeed]
                rfl
            rcases starts with ⟨tail, split⟩
            rw [← split] at feed
            exact absurd (Option.some.inj feed) (ne_of_isLineEnd isKept rfl)
          · rw [unifyLineEnds_cons isReturn, List.cons_prefix_cons] at starts
            exact List.cons_prefix_cons.mpr ⟨starts.1, ih isFree starts.2⟩

end

/-! ## Replacement in lines -/

section

variable {pattern replacement : List Char}
variable (nonempty : pattern ≠ []) (free : ∀ c ∈ pattern, isLineEnd c = false)
variable (written : replacement ≠ []) (alsoFree : ∀ c ∈ replacement, isLineEnd c = false)

include nonempty free in
/-- No occurrence starts at a line end. -/
theorem replaceFrom_lineEnd {d : Char} (ends : isLineEnd d = true) (text : List Char) :
    replaceFrom pattern replacement 0 (d :: text) =
      d :: replaceFrom pattern replacement 0 text := by
  apply replaceFrom_skip
  cases pattern with
  | nil => exact absurd rfl nonempty
  | cons a pattern =>
      intro starts
      exact ne_of_isLineEnd (free a List.mem_cons_self) ends (List.cons_prefix_cons.mp starts).1

include nonempty free written alsoFree in
theorem head?_replaceFrom_eq_feed_iff (text : List Char) :
    (replaceFrom pattern replacement 0 text).head? = some '\n' ↔ text.head? = some '\n' := by
  have notFeed {front : List Char} (more : List Char) (something : front ≠ [])
      (isFree : ∀ c ∈ front, isLineEnd c = false) : (front ++ more).head? ≠ some '\n' := by
    cases front with
    | nil => exact absurd rfl something
    | cons a front =>
        rw [List.cons_append, List.head?_cons, Ne, Option.some.injEq]
        exact ne_of_isLineEnd (isFree a List.mem_cons_self) rfl
  refine replaceFrom_induction nonempty (motive := fun text result =>
    result.head? = some '\n' ↔ text.head? = some '\n') Iff.rfl ?_ ?_ text
  · intro back _
    exact iff_of_false (notFeed _ written alsoFree) (notFeed _ nonempty free)
  · intro c back _ _
    exact Iff.rfl

include nonempty free written alsoFree in
theorem unifyLineEnds_replaceFrom (text : List Char) :
    unifyLineEnds (replaceFrom pattern replacement 0 text) =
      replaceFrom pattern replacement 0 (unifyLineEnds text) := by
  refine replaceFrom_induction nonempty (motive := fun text result =>
    unifyLineEnds result = replaceFrom pattern replacement 0 (unifyLineEnds text)) rfl ?_ ?_ text
  · intro back ih
    rw [unifyLineEnds_append alsoFree, unifyLineEnds_append free, replaceFrom_match nonempty, ih]
  · intro c back notHere ih
    by_cases isReturn : c = '\r'
    · subst isReturn
      have feed := head?_replaceFrom_eq_feed_iff nonempty free written alsoFree back
      by_cases isFeed : back.head? = some '\n'
      · rw [unifyLineEnds_pair isFeed, unifyLineEnds_pair (feed.mpr isFeed), ih]
      · rw [unifyLineEnds_return isFeed, unifyLineEnds_return (mt feed.mp isFeed), ih,
          replaceFrom_lineEnd nonempty free rfl]
    · rw [unifyLineEnds_cons isReturn, ih, unifyLineEnds_cons isReturn, replaceFrom_skip]
      intro starts
      rw [← unifyLineEnds_cons isReturn] at starts
      exact notHere (prefix_of_prefix_unifyLineEnds free starts)

theorem splitOn_feed (text : List Char) :
    ('\n' :: text).splitOn '\n' = [] :: text.splitOn '\n' := by
  rw [List.splitOn, List.splitOnP_cons_eq_if_modifyHead, if_pos (by decide)]
  rfl

theorem splitOn_cons {c : Char} (other : c ≠ '\n') (text : List Char) :
    (c :: text).splitOn '\n' = (text.splitOn '\n').modifyHead (c :: ·) := by
  rw [List.splitOn, List.splitOnP_cons_eq_if_modifyHead, if_neg (by simpa using other)]
  rfl

theorem splitOn_append {front : List Char} (free : ∀ c ∈ front, isLineEnd c = false)
    (text : List Char) :
    (front ++ text).splitOn '\n' = (text.splitOn '\n').modifyHead (front ++ ·) := by
  induction front with
  | nil =>
      rw [List.nil_append]
      cases text.splitOn '\n' <;> rfl
  | cons c front ih =>
      rcases List.forall_mem_cons.mp free with ⟨isKept, isFree⟩
      rw [List.cons_append, splitOn_cons (ne_of_isLineEnd isKept rfl), ih isFree,
        List.modifyHead_modifyHead]
      rfl

/-- The first line of a text is its start. -/
theorem prefix_of_splitOn {text line : List Char} {others : List (List Char)}
    (lines : text.splitOn '\n' = line :: others) : line <+: text := by
  rw [← @List.intercalate_splitOn _ text _ _ '\n', lines]
  cases others with
  | nil => simp
  | cons next others => simp [List.intercalate]

include nonempty free alsoFree in
theorem splitOn_replaceFrom (text : List Char) :
    (replaceFrom pattern replacement 0 text).splitOn '\n' =
      (text.splitOn '\n').map (replaceFrom pattern replacement 0) := by
  refine replaceFrom_induction nonempty (motive := fun text result =>
    result.splitOn '\n' = (text.splitOn '\n').map (replaceFrom pattern replacement 0))
    rfl ?_ ?_ text
  · intro back ih
    rw [splitOn_append alsoFree, splitOn_append free, ih]
    cases back.splitOn '\n' with
    | nil => rfl
    | cons line others => simp [replaceFrom_match nonempty]
  · intro c back notHere ih
    by_cases isFeed : c = '\n'
    · subst isFeed
      rw [splitOn_feed, splitOn_feed, ih]
      rfl
    · rw [splitOn_cons isFeed, splitOn_cons isFeed, ih]
      cases lines : back.splitOn '\n' with
      | nil => rfl
      | cons line others =>
          have notInLine : ¬ pattern <+: c :: line := fun starts =>
            notHere (starts.trans (List.cons_prefix_cons.mpr ⟨rfl, prefix_of_splitOn lines⟩))
          simp [replaceFrom_skip notInLine]

end

/-- The lines of a text in which a pattern is replaced. -/
theorem splitLines_replaceAll {pattern replacement : String}
    (nonempty : pattern.toList ≠ []) (free : ∀ c ∈ pattern.toList, isLineEnd c = false)
    (written : replacement.toList ≠ []) (alsoFree : ∀ c ∈ replacement.toList, isLineEnd c = false)
    (text : String) :
    splitLines (replaceAll text pattern replacement) =
      (splitLines text).map fun line => replaceAll line pattern replacement := by
  rw [splitLines, replaceAll, String.toList_ofList,
    unifyLineEnds_replaceFrom nonempty free written alsoFree,
    splitOn_replaceFrom nonempty free alsoFree, splitLines, List.map_map, List.map_map]
  apply List.map_congr_left
  intro line _
  simp [replaceAll]

end HeaderBindings.Text
