import HeaderBindings.Proofs.Header.BracketDepth
import HeaderBindings.Proofs.Outcome
import HeaderBindings.Proofs.Text.Slice

/-!
# The pieces of an argument list

The commas of an argument list are told apart with the depth of brackets of all
kinds, one kind being as good as another.  A list can be split exactly if it is
balanced, and what it is split at are the commas at depth zero.
-/

namespace HeaderBindings.Header

open BracketCount (parens allKinds)
open Text (isBlank)

variable {opened left : Nat} {c : Char} {text list first : List Char}
variable {rest : List (List Char)}

/-! ## Splitting at outer commas -/

/-- The depth after one more character of a piece, in which every comma stands inside brackets. -/
def pieceStep? (opened : Nat) (c : Char) : Option Nat :=
  if c = ',' ∧ opened = 0 then none else allKinds.step? opened c

section

variable (moreClosing moreOpening : BracketError)

theorem splitOutermost_cons (opened : Nat) (c : Char) (text : List Char) :
    splitOutermost moreClosing moreOpening opened (c :: text) =
      match allKinds.step? opened c with
      | none => .error moreClosing
      | some left =>
        (splitOutermost moreClosing moreOpening left text).map
          (if c = ',' ∧ opened = 0 then ([] :: ·) else consPiece c) := by
  rw [splitOutermost.eq_def]
  unfold BracketCount.step? allKinds
  by_cases comma : c = ','
  · subst comma
    cases opened with
    | zero => rfl
    | succ outer => rfl
  · by_cases opens : opensBracket c = true
    · simp [opens, comma]
    · by_cases closes : closesBracket c = true
      · cases opened with
        | zero => simp [opens, closes]
        | succ outer => simp [opens, closes]
      · simp [opens, closes, comma]

variable {moreClosing moreOpening}

/-- A text can be split if its steps lead to the depth zero. -/
theorem exists_splitOutermost_iff :
    (∃ parts, splitOutermost moreClosing moreOpening opened text = .ok parts) ↔
      text.foldlM allKinds.step? opened = some 0 := by
  induction text generalizing opened with
  | nil =>
      rw [splitOutermost]
      split <;> simp [*]
  | cons c text ih =>
      rw [splitOutermost_cons, List.foldlM_cons]
      cases step : allKinds.step? opened c with
      | none => simp
      | some left => simpa [Outcome.map_eq_ok_iff] using ih

theorem splitOutermost_ne_nil :
    splitOutermost moreClosing moreOpening opened text ≠ .ok [] := by
  cases text with
  | nil =>
      rw [splitOutermost]
      split <;> simp
  | cons c text =>
      rw [splitOutermost_cons]
      split
      · simp
      · rw [Ne, Outcome.map_eq_ok_iff]
        rintro ⟨parts, -, none⟩
        split at none
        · cases none
        · cases parts <;> cases none

theorem splitOutermost_comma (text : List Char) :
    splitOutermost moreClosing moreOpening 0 (',' :: text) =
      (splitOutermost moreClosing moreOpening 0 text).map ([] :: ·) :=
  splitOutermost_cons moreClosing moreOpening 0 ',' text

/-- A character that is no outer comma belongs to the first piece. -/
theorem splitOutermost_inner (inner : ¬ (c = ',' ∧ opened = 0)) :
    splitOutermost moreClosing moreOpening opened (c :: text) = .ok (first :: rest) ↔
      ∃ left piece, allKinds.step? opened c = some left ∧ first = c :: piece ∧
        splitOutermost moreClosing moreOpening left text = .ok (piece :: rest) := by
  rw [splitOutermost_cons, if_neg inner]
  cases allKinds.step? opened c with
  | none => simp
  | some left =>
      simp only [Option.some.injEq, exists_and_left, exists_eq_left', Outcome.map_eq_ok_iff]
      constructor
      · rintro ⟨parts, read, equal⟩
        cases parts with
        | nil => exact absurd read splitOutermost_ne_nil
        | cons piece parts =>
            cases equal
            exact ⟨piece, rfl, read⟩
      · rintro ⟨piece, rfl, read⟩
        exact ⟨piece :: rest, read, rfl⟩

end

/-- A text consists of a piece, which closes the brackets that are open before it, and of further
pieces, each behind a comma. -/
structure Consists (opened : Nat) (text first : List Char) (rest : List (List Char)) : Prop where
  joined : text = first ++ rest.flatMap (',' :: ·)
  closing : first.foldlM pieceStep? opened = some 0
  closed : ∀ part ∈ rest, part.foldlM pieceStep? 0 = some 0

theorem consists_nil : Consists opened [] first rest ↔ opened = 0 ∧ first = [] ∧ rest = [] := by
  constructor
  · rintro ⟨joined, steps, -⟩
    rw [List.nil_eq, List.append_eq_nil_iff, List.flatMap_eq_nil_iff] at joined
    rcases joined with ⟨rfl, none⟩
    refine ⟨Option.some.inj steps, rfl, List.eq_nil_iff_forall_not_mem.mpr ?_⟩
    exact fun part member => List.cons_ne_nil _ _ (none part member)
  · rintro ⟨rfl, rfl, rfl⟩
    exact ⟨rfl, rfl, by simp⟩

theorem consists_comma :
    Consists 0 (',' :: text) first rest ↔
      first = [] ∧ ∃ second later, rest = second :: later ∧ Consists 0 text second later := by
  constructor
  · rintro ⟨joined, steps, pieces⟩
    cases first with
    | cons d first =>
        -- no piece starts with an outer comma
        obtain rfl : ',' = d := (List.cons.inj joined).1
        cases steps
    | nil =>
        cases rest with
        | nil => cases joined
        | cons second later =>
            rcases List.forall_mem_cons.mp pieces with ⟨isSecond, isLater⟩
            exact ⟨rfl, second, later, rfl, (List.cons.inj joined).2, isSecond, isLater⟩
  · rintro ⟨rfl, second, later, rfl, joined, isSecond, isLater⟩
    exact ⟨by simp [joined], rfl, List.forall_mem_cons.mpr ⟨isSecond, isLater⟩⟩

theorem consists_inner (inner : ¬ (c = ',' ∧ opened = 0)) :
    Consists opened (c :: text) first rest ↔
      ∃ left piece, allKinds.step? opened c = some left ∧ first = c :: piece ∧
        Consists left text piece rest := by
  have step : pieceStep? opened c = allKinds.step? opened c := if_neg inner
  constructor
  · rintro ⟨joined, steps, pieces⟩
    cases first with
    | nil =>
        cases rest with
        | nil => cases joined
        | cons second later =>
            exact absurd ⟨(List.cons.inj joined).1, Option.some.inj steps⟩ inner
    | cons d first =>
        rw [List.cons_append, List.cons.injEq] at joined
        rcases joined with ⟨rfl, joined⟩
        rw [List.foldlM_cons, step] at steps
        rcases Option.bind_eq_some_iff.mp steps with ⟨left, reached, steps⟩
        exact ⟨left, first, reached, rfl, joined, steps, pieces⟩
  · rintro ⟨left, piece, reached, rfl, joined, steps, pieces⟩
    refine ⟨by simp [joined], ?_, pieces⟩
    rw [List.foldlM_cons, step, reached]
    exact steps

/-- The pieces that a text is split into are those that it consists of. -/
theorem splitOutermost_eq_ok_iff {moreClosing moreOpening : BracketError} :
    splitOutermost moreClosing moreOpening opened text = .ok (first :: rest) ↔
      Consists opened text first rest := by
  induction text generalizing opened first rest with
  | nil =>
      rw [splitOutermost, consists_nil]
      split <;> simp [*, eq_comm]
  | cons c text ih =>
      by_cases outer : c = ',' ∧ opened = 0
      · rcases outer with ⟨rfl, rfl⟩
        rw [splitOutermost_comma, consists_comma, Outcome.map_eq_ok_iff]
        constructor
        · rintro ⟨parts, read, equal⟩
          cases equal
          cases rest with
          | nil => exact absurd read splitOutermost_ne_nil
          | cons second later => exact ⟨rfl, second, later, rfl, ih.mp read⟩
        · rintro ⟨rfl, second, later, rfl, consists⟩
          exact ⟨second :: later, ih.mpr consists, rfl⟩
      · simp only [splitOutermost_inner outer, consists_inner outer, ih]

/-! ## Outer commas -/

/-- The positions of the commas at depth zero. -/
def outerCommas (text : List Char) : List Nat :=
  (List.range text.length).filter fun i => text[i]? == some ',' && allKinds.depth (text.take i) == 0

/-- The texts between the characters at some positions, from `start` on. -/
def slicesFrom (text : List Char) (start : Nat) : List Nat → List (List Char)
  | [] => [text.drop start]
  | cut :: cuts => (text.drop start).take (cut - start) :: slicesFrom text (cut + 1) cuts

theorem length_slicesFrom (text : List Char) (start : Nat) (cuts : List Nat) :
    (slicesFrom text start cuts).length = cuts.length + 1 := by
  induction cuts generalizing start with
  | nil => rfl
  | cons cut cuts ih => rw [slicesFrom, List.length_cons, ih, List.length_cons]

/-- A balanced text that no comma at depth zero divides. -/
@[mk_iff]
structure Undivided (text : List Char) : Prop where
  balanced : allKinds.Balanced text
  noComma : outerCommas text = []

instance (text : List Char) : Decidable (Undivided text) :=
  decidable_of_iff' _ (undivided_iff text)

theorem outerCommas_eq_nil_iff :
    outerCommas text = [] ↔ ∀ i, text[i]? = some ',' → allKinds.depth (text.take i) ≠ 0 := by
  rw [outerCommas, List.filter_eq_nil_iff]
  constructor
  · intro inside i comma outermost
    have isPosition := (List.getElem?_eq_some_iff.mp comma).1
    exact inside i (List.mem_range.mpr isPosition) (by simp [comma, outermost])
  · intro inside i _ outer
    simp only [Bool.and_eq_true, beq_iff_eq] at outer
    exact inside i outer.1 outer.2

theorem foldlM_pieceStep?_eq_some_iff :
    text.foldlM pieceStep? opened = some left ↔
      text.foldlM allKinds.step? opened = some left ∧
        ∀ i, text[i]? = some ',' → opened + allKinds.depth (text.take i) ≠ 0 := by
  induction text generalizing opened with
  | nil => simp
  | cons c text ih =>
      rw [List.foldlM_cons, List.foldlM_cons]
      by_cases outer : c = ',' ∧ opened = 0
      · rcases outer with ⟨rfl, rfl⟩
        simp only [pieceStep?, and_self, if_true, Option.bind_eq_bind, Option.bind_none,
          reduceCtorEq, false_iff, not_and]
        intro _ inside
        exact inside 0 rfl rfl
      · have step : pieceStep? opened c = allKinds.step? opened c := if_neg outer
        rw [step]
        cases reached : allKinds.step? opened c with
        | none => simp
        | some next =>
            have depth := BracketCount.step?_eq_some_iff.mp reached
            simp only [Option.bind_eq_bind, Option.bind_some, ih]
            refine and_congr_right fun _ => ?_
            constructor
            · rintro inside (_ | i) comma
              · simp only [List.getElem?_cons_zero, Option.some.injEq] at comma
                simp only [List.take_zero, BracketCount.depth_nil, add_zero, ne_eq,
                  Int.natCast_eq_zero]
                exact fun outermost => outer ⟨comma, outermost⟩
              · have later := inside i (by simpa using comma)
                rw [List.take_succ_cons, BracketCount.depth_cons]
                omega
            · intro inside i comma
              have later := inside (i + 1) (by simpa using comma)
              rw [List.take_succ_cons, BracketCount.depth_cons] at later
              omega

theorem undivided_iff_foldlM : Undivided text ↔ text.foldlM pieceStep? 0 = some 0 := by
  rw [undivided_iff, BracketCount.balanced_iff_foldlM, outerCommas_eq_nil_iff,
    foldlM_pieceStep?_eq_some_iff]
  simp

/-- Behind a balanced text, the commas at depth zero are those of what follows. -/
theorem outerCommas_append (closed : allKinds.depth first = 0) (text : List Char) :
    outerCommas (first ++ text) =
      outerCommas first ++ (outerCommas text).map (first.length + ·) := by
  rw [outerCommas, List.length_append, List.range_add, List.filter_append, List.filter_map]
  congr 1
  · apply List.filter_congr
    intro i member
    have isPosition := List.mem_range.mp member
    rw [List.getElem?_append_left isPosition, List.take_append_of_le_length isPosition.le]
  · congr 1
    apply List.filter_congr
    intro i _
    dsimp only [Function.comp_apply]
    rw [List.getElem?_append_right (Nat.le_add_right _ _), Nat.add_sub_cancel_left,
      List.take_length_add_append, BracketCount.depth_append, closed, zero_add]

theorem slicesFrom_append (first text : List Char) (start : Nat) (cuts : List Nat) :
    slicesFrom (first ++ text) (first.length + start) (cuts.map (first.length + ·)) =
      slicesFrom text start cuts := by
  induction cuts generalizing start with
  | nil => simp [slicesFrom]
  | cons cut cuts ih =>
      have distance : first.length + cut - (first.length + start) = cut - start := by omega
      rw [List.map_cons, slicesFrom, slicesFrom, distance, Nat.add_assoc, ih]
      simp

/-- The texts between the commas at depth zero are the pieces that are joined there. -/
theorem slicesFrom_outerCommas (undivided : Undivided first)
    (pieces : ∀ part ∈ rest, Undivided part) :
    slicesFrom (first ++ rest.flatMap (',' :: ·)) 0
        (outerCommas (first ++ rest.flatMap (',' :: ·))) =
      first :: rest := by
  induction rest generalizing first with
  | nil => simp [undivided.noComma, slicesFrom]
  | cons second rest ih =>
      rcases List.forall_mem_cons.mp pieces with ⟨isSecond, pieces⟩
      have closed : allKinds.depth (first ++ [',']) = 0 := by
        rw [BracketCount.depth_append, undivided.balanced.closed]
        rfl
      have commas : outerCommas (first ++ [',']) = [first.length] := by
        rw [outerCommas_append undivided.balanced.closed, undivided.noComma]
        rfl
      have split : first ++ (second :: rest).flatMap (',' :: ·) =
          (first ++ [',']) ++ (second ++ rest.flatMap (',' :: ·)) := by
        simp
      have onwards := slicesFrom_append (first ++ [',']) (second ++ rest.flatMap (',' :: ·)) 0
        (outerCommas (second ++ rest.flatMap (',' :: ·)))
      rw [List.length_append, List.length_singleton, add_zero, ih isSecond pieces] at onwards
      rw [split, outerCommas_append closed, commas, List.length_append, List.length_singleton,
        List.singleton_append, slicesFrom, onwards]
      simp

/-! ## Characters without a part in a list -/

/-- The characters that give an argument list its structure. -/
def delimits (c : Char) : Bool :=
  c == ',' || opensBracket c || closesBracket c

theorem isWord_of_delimits (delimiter : delimits c = true) : Text.isWord c = false := by
  simp only [delimits, opensBracket, closesBracket, Bool.or_eq_true, beq_iff_eq] at delimiter
  rcases delimiter with (rfl | ((rfl | rfl) | rfl) | rfl) | ((rfl | rfl) | rfl) | rfl <;> rfl

theorem isBlank_of_delimits (delimiter : delimits c = true) : isBlank c = false := by
  simp only [delimits, opensBracket, closesBracket, Bool.or_eq_true, beq_iff_eq] at delimiter
  rcases delimiter with (rfl | ((rfl | rfl) | rfl) | rfl) | ((rfl | rfl) | rfl) | rfl <;> rfl

theorem delimits_of_isBlank (blank : isBlank c = true) : delimits c = false := by
  rw [Bool.eq_false_iff]
  intro delimiter
  rw [isBlank_of_delimits delimiter] at blank
  cases blank

theorem step?_plain (plain : delimits c = false) (opened : Nat) :
    allKinds.step? opened c = some opened := by
  rw [delimits, Bool.or_eq_false_iff, Bool.or_eq_false_iff] at plain
  exact BracketCount.step?_plain plain.1.2 plain.2

theorem pieceStep?_plain (plain : delimits c = false) (opened : Nat) :
    pieceStep? opened c = some opened := by
  have notComma : c ≠ ',' := by
    rintro rfl
    cases plain
  rw [pieceStep?, if_neg (fun outer => notComma outer.1), step?_plain plain]

theorem step?_parens_plain (plain : delimits c = false) (opened : Nat) :
    parens.step? opened c = some opened := by
  apply BracketCount.step?_plain
  · rw [Bool.eq_false_iff]
    intro opens
    obtain rfl : c = '(' := beq_iff_eq.mp opens
    cases plain
  · rw [Bool.eq_false_iff]
    intro closes
    obtain rfl : c = ')' := beq_iff_eq.mp closes
    cases plain

section

variable {step? : Nat → Char → Option Nat}

theorem foldlM_kept (kept : ∀ c ∈ text, step? opened c = some opened) :
    text.foldlM step? opened = some opened := by
  induction text with
  | nil => rfl
  | cons c text ih =>
      rcases List.forall_mem_cons.mp kept with ⟨isFirst, isRest⟩
      rw [List.foldlM_cons, isFirst]
      exact ih isRest

theorem foldlM_joinWith (comma : step? 0 ',' = some 0) (blank : step? 0 ' ' = some 0)
    {texts : List String} (each : ∀ text ∈ texts, text.toList.foldlM step? 0 = some 0) :
    (Text.joinWith ", " texts).toList.foldlM step? 0 = some 0 := by
  induction texts with
  | nil => rfl
  | cons first rest ih =>
      rcases List.forall_mem_cons.mp each with ⟨isFirst, isRest⟩
      by_cases last : rest = []
      · rw [last, Text.joinWith_singleton, isFirst]
      · have separator : ", ".toList.foldlM step? 0 = some 0 := by
          show (step? 0 ',').bind (fun next => (step? next ' ').bind some) = some 0
          rw [comma, Option.bind_some, blank, Option.bind_some]
        rw [Text.joinWith_cons _ first last, String.toList_append, String.toList_append,
          List.foldlM_append, isFirst]
        simp only [Option.bind_eq_bind, Option.bind_some, List.foldlM_append, separator]
        exact ih isRest

/-- The blanks around a text make no difference to steps that keep the depth at a blank. -/
theorem foldlM_trim (keeps : ∀ {c}, delimits c = false → ∀ opened, step? opened c = some opened)
    (text : String) (opened : Nat) :
    (Text.trim text).toList.foldlM step? opened = text.toList.foldlM step? opened := by
  have keepsBlanks {blanks : List Char} (blank : ∀ c ∈ blanks, isBlank c = true)
      (opened : Nat) : blanks.foldlM step? opened = some opened :=
    foldlM_kept fun c member => keeps (delimits_of_isBlank (blank c member)) opened
  rcases Text.exists_trim text with ⟨front, back, split, frontBlank, backBlank⟩
  rw [split, List.foldlM_append, keepsBlanks frontBlank]
  simp only [Option.bind_eq_bind, Option.bind_some, List.foldlM_append,
    keepsBlanks backBlank, Option.bind_fun_some]

end

theorem balanced_trim (text : String) :
    allKinds.Balanced (Text.trim text).toList ↔ allKinds.Balanced text.toList := by
  rw [BracketCount.balanced_iff_foldlM, BracketCount.balanced_iff_foldlM, foldlM_trim step?_plain]

theorem undivided_trim (text : String) :
    Undivided (Text.trim text).toList ↔ Undivided text.toList := by
  rw [undivided_iff_foldlM, undivided_iff_foldlM, foldlM_trim pieceStep?_plain]

def trimPiece (piece : List Char) : String :=
  Text.trim (.ofList piece)

section

variable {moreClosing moreOpening : BracketError} {parts : List (List Char)}

/-- Blanks around a list belong to its first and its last piece. -/
theorem splitOutermost_around {front back : List Char}
    (frontBlank : ∀ c ∈ front, isBlank c = true) (backBlank : ∀ c ∈ back, isBlank c = true)
    (read : splitOutermost moreClosing moreOpening 0 text = .ok parts) :
    ∃ around, splitOutermost moreClosing moreOpening 0 (front ++ (text ++ back)) = .ok around ∧
      around.map trimPiece = parts.map trimPiece := by
  have kept {blanks : List Char} (blank : ∀ c ∈ blanks, isBlank c = true) :
      blanks.foldlM pieceStep? 0 = some 0 :=
    foldlM_kept fun c member => pieceStep?_plain (delimits_of_isBlank (blank c member)) 0
  have behind {part : List Char} (steps : part.foldlM pieceStep? 0 = some 0) :
      (part ++ back).foldlM pieceStep? 0 = some 0 := by
    rw [List.foldlM_append, steps]
    exact kept backBlank
  have before {part : List Char} (steps : part.foldlM pieceStep? 0 = some 0) :
      (front ++ part).foldlM pieceStep? 0 = some 0 := by
    rw [List.foldlM_append, kept frontBlank]
    exact steps
  have noFront : ∀ c ∈ ([] : List Char), isBlank c = true := by simp
  cases parts with
  | nil => exact absurd read splitOutermost_ne_nil
  | cons first rest =>
      rcases splitOutermost_eq_ok_iff.mp read with ⟨split, steps, pieces⟩
      rcases List.eq_nil_or_concat' rest with rfl | ⟨middle, last, rfl⟩
      · refine ⟨[front ++ (first ++ back)], ?_, ?_⟩
        · exact splitOutermost_eq_ok_iff.mpr
            ⟨by simp [split], before (behind steps), by simp⟩
        · exact congrArg (fun piece => [piece]) (Text.trim_around first frontBlank backBlank)
      · rw [List.forall_mem_append, List.forall_mem_singleton] at pieces
        refine ⟨(front ++ first) :: (middle ++ [last ++ back]), ?_, ?_⟩
        · refine splitOutermost_eq_ok_iff.mpr ⟨by simp [split], before steps, ?_⟩
          rw [List.forall_mem_append, List.forall_mem_singleton]
          exact ⟨pieces.1, behind pieces.2⟩
        · have ofFirst := Text.trim_around first frontBlank noFront
          have ofLast := Text.trim_around last noFront backBlank
          rw [List.append_nil] at ofFirst
          rw [List.nil_append] at ofLast
          simp only [List.map_cons, List.map_append, List.map_nil, trimPiece, ofFirst, ofLast]

end

/-! ## Texts that can stand in a list -/

/-- A text that neither ends an argument list nor divides it. -/
@[mk_iff]
structure Listable (text : List Char) : Prop where
  undivided : Undivided text
  parens : parens.Balanced text

instance (text : List Char) : Decidable (Listable text) :=
  decidable_of_iff' _ (listable_iff text)

theorem listable_iff_foldlM :
    Listable text ↔
      text.foldlM pieceStep? 0 = some 0 ∧ text.foldlM parens.step? 0 = some 0 := by
  rw [listable_iff, undivided_iff_foldlM, BracketCount.balanced_iff_foldlM]

/-- Behind a text that can stand in a list, another one has the same part in the list as alone. -/
theorem Listable.append_iff {more : List Char} (isListable : Listable text) :
    Listable (text ++ more) ↔ Listable more := by
  rw [listable_iff_foldlM] at isListable
  rw [listable_iff_foldlM, listable_iff_foldlM, List.foldlM_append, List.foldlM_append,
    isListable.1, isListable.2]
  rfl

theorem Listable.append {more : List Char} (isListable : Listable text)
    (moreListable : Listable more) : Listable (text ++ more) :=
  isListable.append_iff.mpr moreListable

theorem listable_plain (plain : ∀ c ∈ text, delimits c = false) : Listable text :=
  listable_iff_foldlM.mpr
    ⟨foldlM_kept fun c member => pieceStep?_plain (plain c member) 0,
      foldlM_kept fun c member => step?_parens_plain (plain c member) 0⟩

theorem listable_of_any (noDelimiter : text.any delimits = false) : Listable text :=
  listable_plain fun c member => by simpa using List.any_eq_false.mp noDelimiter c member

/-- The commas of a balanced text stand inside brackets if it is put between two of them. -/
theorem listable_angled (balanced : allKinds.Balanced list)
    (parensBalanced : parens.Balanced list) :
    Listable ('<' :: (list ++ ['>'])) := by
  have inner : list.foldlM pieceStep? 1 = some 1 := by
    rw [foldlM_pieceStep?_eq_some_iff, BracketCount.foldlM_step?_eq_some_iff]
    refine ⟨⟨fun front member => ?_, ?_⟩, fun i _ => ?_⟩
    · have above := balanced.nonneg front member
      omega
    · rw [balanced.closed]
      rfl
    · have member := (List.mem_inits _ _).mpr (List.take_prefix i list)
      have above := balanced.nonneg (list.take i) member
      omega
  have parensInner := BracketCount.balanced_iff_foldlM.mp parensBalanced
  have opens : pieceStep? 0 '<' = some 1 := rfl
  have opensNone : parens.step? 0 '<' = some 0 := rfl
  rw [listable_iff_foldlM, List.foldlM_cons, List.foldlM_cons, opens, opensNone]
  simp only [Option.bind_eq_bind, Option.bind_some, List.foldlM_append, inner, parensInner]
  exact ⟨rfl, rfl⟩

theorem toClosingParen?_joined {texts : List String}
    (listable : ∀ text ∈ texts, Listable text.toList) (more : List Char) :
    toClosingParen? 0 ((Text.joinWith ", " texts).toList ++ more) =
      (toClosingParen? 0 more).map fun sides =>
        ((Text.joinWith ", " texts).toList ++ sides.1, sides.2) :=
  toClosingParen?_steps
    (foldlM_joinWith rfl rfl fun text member =>
      BracketCount.balanced_iff_foldlM.mp (listable text member).parens) more

/-! ## Argument lists -/

/-- The trimmed texts between the outer commas of a text. -/
def outerPieces (text : String) : List String :=
  (slicesFrom text.toList 0 (outerCommas text.toList)).map trimPiece

variable {args : String} {pieces : List String}

theorem splitArguments_eq_ok_iff
    (notBlank : Text.trim args ≠ "") (notVoid : Text.trim args ≠ "void") :
    splitArguments args = .ok pieces ↔
      ∃ parts, splitOutermost (.moreClosing (Text.trim args)) (.moreOpening (Text.trim args)) 0
          (Text.trim args).toList = .ok parts ∧ parts.map trimPiece = pieces := by
  have isList : ((Text.trim args).isEmpty || Text.trim args == "void") = false := by
    simp [notBlank, notVoid]
  unfold splitArguments
  dsimp only
  rw [isList, if_neg Bool.false_ne_true, Outcome.map_eq_ok_iff]
  rfl

theorem exists_splitArguments_iff
    (notBlank : Text.trim args ≠ "") (notVoid : Text.trim args ≠ "void") :
    (∃ pieces, splitArguments args = .ok pieces) ↔ allKinds.Balanced args.toList := by
  simp only [splitArguments_eq_ok_iff notBlank notVoid]
  rw [← balanced_trim, BracketCount.balanced_iff_foldlM, ← exists_splitOutermost_iff]
  constructor
  · rintro ⟨_, parts, read, _⟩
    exact ⟨parts, read⟩
  · rintro ⟨parts, read⟩
    exact ⟨_, parts, read, rfl⟩

/-- The pieces of a list are what stands between its outer commas. -/
theorem splitArguments_ok
    (notBlank : Text.trim args ≠ "") (notVoid : Text.trim args ≠ "void")
    (read : splitArguments args = .ok pieces) :
    pieces = outerPieces (Text.trim args) ∧ ∀ piece ∈ pieces, Undivided piece.toList := by
  rcases (splitArguments_eq_ok_iff notBlank notVoid).mp read with ⟨parts, split, rfl⟩
  cases parts with
  | nil => exact absurd split splitOutermost_ne_nil
  | cons first rest =>
      rcases splitOutermost_eq_ok_iff.mp split with ⟨joined, steps, pieces⟩
      have undivided : ∀ part ∈ first :: rest, Undivided part :=
        List.forall_mem_cons.mpr
          ⟨undivided_iff_foldlM.mpr steps,
            fun part member => undivided_iff_foldlM.mpr (pieces part member)⟩
      rcases List.forall_mem_cons.mp undivided with ⟨isFirst, isRest⟩
      constructor
      · rw [outerPieces, joined, slicesFrom_outerCommas isFirst isRest]
      · rw [List.forall_mem_map]
        intro part member
        rw [trimPiece, undivided_trim, String.toList_ofList]
        exact undivided part member

theorem toList_joinWith (first : String) (rest : List String) :
    (Text.joinWith ", " (first :: rest)).toList =
      first.toList ++ (rest.map fun text => ' ' :: text.toList).flatMap (',' :: ·) := by
  induction rest generalizing first with
  | nil => simp
  | cons second rest ih =>
      rw [Text.joinWith_cons _ first (List.cons_ne_nil _ _), String.toList_append,
        String.toList_append, ih]
      simp

/-- Splitting undoes joining. -/
theorem splitArguments_joined
    (notBlank : Text.trim (Text.joinWith ", " pieces) ≠ "")
    (notVoid : Text.trim (Text.joinWith ", " pieces) ≠ "void")
    (each : ∀ piece ∈ pieces, Text.Trimmed piece ∧ Undivided piece.toList) :
    splitArguments (Text.joinWith ", " pieces) = .ok pieces := by
  rw [splitArguments_eq_ok_iff notBlank notVoid]
  generalize BracketError.moreClosing _ = moreClosing
  generalize BracketError.moreOpening _ = moreOpening
  cases pieces with
  | nil => exact absurd rfl notBlank
  | cons first rest =>
      rcases List.forall_mem_cons.mp each with ⟨⟨firstTrimmed, isFirst⟩, each⟩
      have blankStep (text : List Char) :
          (' ' :: text).foldlM pieceStep? 0 = text.foldlM pieceStep? 0 := by
        rw [List.foldlM_cons, pieceStep?_plain (by decide)]
        rfl
      have whole : splitOutermost moreClosing moreOpening 0
          (Text.joinWith ", " (first :: rest)).toList =
            .ok (first.toList :: rest.map fun text => ' ' :: text.toList) := by
        rw [toList_joinWith]
        refine splitOutermost_eq_ok_iff.mpr ⟨rfl, undivided_iff_foldlM.mp isFirst, ?_⟩
        rw [List.forall_mem_map]
        intro text member
        rw [blankStep]
        exact undivided_iff_foldlM.mp (each text member).2
      have trimmed (text : String) (member : text ∈ rest) :
          trimPiece (' ' :: text.toList) = text := by
        rw [trimPiece, Text.trim_cons_blank (by decide), String.ofList_toList,
          (each text member).1.trim_eq]
      -- the blanks that are trimmed away stand in front of the first piece or behind the last one
      have accepted := exists_splitOutermost_iff.mp ⟨_, whole⟩
      rw [← foldlM_trim step?_plain, ← exists_splitOutermost_iff] at accepted
      rcases accepted with ⟨parts, read⟩
      rcases Text.exists_trim (Text.joinWith ", " (first :: rest)) with
        ⟨front, back, split, frontBlank, backBlank⟩
      rcases splitOutermost_around frontBlank backBlank read with ⟨around, readAround, same⟩
      rw [← split, whole, Except.ok.injEq] at readAround
      subst readAround
      have firstPiece : trimPiece first.toList = first := by
        rw [trimPiece, String.ofList_toList, firstTrimmed.trim_eq]
      have restPieces : (rest.map fun text => ' ' :: text.toList).map trimPiece = rest := by
        rw [List.map_map]
        exact (List.map_congr_left trimmed).trans (List.map_id rest)
      rw [List.map_cons, firstPiece, restPieces] at same
      exact ⟨parts, read, same.symm⟩

/-- Texts that are no blanks are told apart from the keyword of an empty list by a comma. -/
theorem splitArguments_texts
    (each : ∀ piece ∈ pieces, Text.Trimmed piece ∧ Undivided piece.toList)
    (isText : ∀ piece ∈ pieces, piece.toList ≠ [])
    (notVoid : pieces ≠ ["void"]) :
    splitArguments (Text.joinWith ", " pieces) = .ok pieces := by
  by_cases none : pieces = []
  · rw [none]
    rfl
  have trimmed : Text.Trimmed (Text.joinWith ", " pieces) :=
    Text.trimmed_joinWith isText fun piece member => (each piece member).1
  refine splitArguments_joined ?_ ?_ each
  · rw [trimmed.trim_eq]
    intro blank
    exact Text.joinWith_nonempty isText none (String.toList_eq_nil_iff.mpr blank)
  · rw [trimmed.trim_eq]
    intro equal
    cases pieces with
    | nil => exact none rfl
    | cons first rest =>
        by_cases last : rest = []
        · rw [last, Text.joinWith_singleton] at equal
          rw [last, equal] at notVoid
          exact notVoid rfl
        · have comma : ',' ∈ "void".toList := by
            rw [← equal, Text.joinWith_cons _ first last]
            simp
          exact absurd comma (by decide)

/--
An argument list can be split exactly if it is balanced.  Its pieces stand between its outer commas,
and texts without an outer comma are what joining them is split into again.
-/
theorem splitArguments_outerCommas {args : String}
    (notBlank : Text.trim args ≠ "") (notVoid : Text.trim args ≠ "void") :
    ((∃ pieces, splitArguments args = .ok pieces) ↔ allKinds.Balanced args.toList) ∧
    (∀ pieces, splitArguments args = .ok pieces →
      pieces = outerPieces (Text.trim args) ∧
      pieces.length = (outerCommas (Text.trim args).toList).length + 1 ∧
      ∀ piece ∈ pieces, Undivided piece.toList) ∧
    ∀ pieces, (∀ piece ∈ pieces, Text.trim piece = piece ∧ Undivided piece.toList) →
      args = Text.joinWith ", " pieces → splitArguments args = .ok pieces := by
  refine ⟨exists_splitArguments_iff notBlank notVoid, ?_, ?_⟩
  · intro pieces read
    rcases splitArguments_ok notBlank notVoid read with ⟨between, undivided⟩
    refine ⟨between, ?_, undivided⟩
    rw [between, outerPieces, List.length_map, length_slicesFrom]
  · rintro pieces each rfl
    apply splitArguments_joined notBlank notVoid
    intro piece member
    rcases each piece member with ⟨trimmed, undivided⟩
    exact ⟨trimmed ▸ Text.trimmed_trim piece, undivided⟩

/-- Pieces with commas inside brackets of all kinds, one of them closed by another kind, and two
pieces without any text. -/
def mixedPieces : List String :=
  ["const Map<K, V> &m", "", "int a[2>", "Foo f = Foo(1, \x7b2, 3\x7d)", ""]

theorem mixedPieces_outerCommas :
    Text.trim (Text.joinWith ", " mixedPieces) ≠ "" ∧
    Text.trim (Text.joinWith ", " mixedPieces) ≠ "void" ∧
    (∀ piece ∈ mixedPieces, Text.trim piece = piece ∧ Undivided piece.toList) ∧
    allKinds.Balanced (Text.joinWith ", " mixedPieces).toList ∧
    splitArguments (Text.joinWith ", " mixedPieces) = .ok mixedPieces := by
  have notBlank : Text.trim (Text.joinWith ", " mixedPieces) ≠ "" := by decide +kernel
  have notVoid : Text.trim (Text.joinWith ", " mixedPieces) ≠ "void" := by decide +kernel
  have each : ∀ piece ∈ mixedPieces, Text.trim piece = piece ∧ Undivided piece.toList := by
    decide +kernel
  rcases splitArguments_outerCommas notBlank notVoid with ⟨accepted, -, joined⟩
  have read := joined mixedPieces each rfl
  exact ⟨notBlank, notVoid, each, accepted.mp ⟨mixedPieces, read⟩, read⟩

end HeaderBindings.Header
