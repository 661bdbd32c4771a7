import HeaderBindings.Header.ArgumentList
import Mathlib.Algebra.BigOperators.Group.List.Basic
import Mathlib.Algebra.Ring.Int.Defs
import Mathlib.Data.List.Infix
import Mathlib.Tactic.MkIffOfInductiveProp

/-!
# Bracket depth

The depth of a text is the number of brackets that it opens and does not close.
A search that counts brackets takes one step for each character and stops where
the depth would fall below zero.  So the end of an argument list is where the
depth of parentheses first does.
-/

namespace HeaderBindings.Header

/-! ## Depth -/

/-- A count of brackets: the characters that raise it and those that lower it. -/
structure BracketCount where
  opens : Char → Bool
  closes : Char → Bool

namespace BracketCount

/-- The count of brackets of all kinds. -/
def allKinds : BracketCount :=
  ⟨opensBracket, closesBracket⟩

/-- The count of parentheses alone. -/
def parens : BracketCount :=
  ⟨(· == '('), (· == ')')⟩

variable (count : BracketCount)

/-- What a character adds to the depth. -/
def weight (c : Char) : Int :=
  if count.opens c then 1 else if count.closes c then -1 else 0

/-- The number of brackets that a text opens and does not close. -/
def depth (text : List Char) : Int :=
  (text.map count.weight).sum

/-- Read from left to right, a text closes no bracket before it is opened, and at its end all are
closed. -/
@[mk_iff]
structure Balanced (text : List Char) : Prop where
  nonneg : ∀ front ∈ text.inits, 0 ≤ count.depth front
  closed : count.depth text = 0

instance (text : List Char) : Decidable (count.Balanced text) :=
  decidable_of_iff' _ (count.balanced_iff text)

@[simp]
theorem depth_nil : count.depth [] = 0 :=
  rfl

@[simp]
theorem depth_cons (c : Char) (text : List Char) :
    count.depth (c :: text) = count.weight c + count.depth text := by
  simp [depth]

@[simp]
theorem depth_append (text more : List Char) :
    count.depth (text ++ more) = count.depth text + count.depth more := by
  simp [depth]

/-- The number of open brackets after one more character; none can be closed where none is open. -/
def step? (opened : Nat) (c : Char) : Option Nat :=
  if count.opens c then some (opened + 1)
  else if count.closes c then
    match opened with
    | 0 => none
    | outer + 1 => some outer
  else some opened

variable {count}
variable {opened left : Nat} {c : Char} {text : List Char}

theorem step?_eq_some_iff :
    count.step? opened c = some left ↔ (left : Int) = opened + count.weight c := by
  unfold step? weight
  split
  · rw [Option.some.injEq]
    omega
  · split
    · cases opened with
      | zero => simp
      | succ outer => simp; omega
    · simp; omega

theorem step?_plain (opening : count.opens c = false) (closing : count.closes c = false) :
    count.step? opened c = some opened := by
  simp [step?, opening, closing]

/-- The steps along a text succeed where the depth stays at zero or above. -/
theorem foldlM_step?_eq_some_iff :
    text.foldlM count.step? opened = some left ↔
      (∀ front ∈ text.inits, 0 ≤ opened + count.depth front) ∧
        (left : Int) = opened + count.depth text := by
  induction text generalizing opened with
  | nil =>
      simp only [List.foldlM_nil, Option.pure_def, Option.some.injEq, List.inits,
        List.mem_singleton, forall_eq, depth_nil]
      omega
  | cons c text ih =>
      simp only [List.foldlM_cons, Option.bind_eq_bind, Option.bind_eq_some_iff,
        step?_eq_some_iff, ih, List.inits_cons, List.forall_mem_cons, List.forall_mem_map,
        depth_nil, depth_cons]
      constructor
      · rintro ⟨next, step, nonneg, finish⟩
        refine ⟨⟨by omega, fun front member => ?_⟩, by omega⟩
        have above := nonneg front member
        omega
      · rintro ⟨⟨-, nonneg⟩, finish⟩
        -- the empty text shows that the step itself stays at zero or above
        have start := nonneg [] (by simp)
        rw [depth_nil, add_zero] at start
        refine ⟨(opened + count.weight c).toNat, by omega, fun front member => ?_, by omega⟩
        have above := nonneg front member
        omega

theorem balanced_iff_foldlM : count.Balanced text ↔ text.foldlM count.step? 0 = some 0 := by
  rw [foldlM_step?_eq_some_iff, balanced_iff]
  simp [eq_comm]

end BracketCount

open BracketCount (parens)

variable {opened left : Nat} {c : Char} {text list after : List Char}

/-! ## The end of an argument list -/

theorem step?_parens_eq_none_iff : parens.step? opened c = none ↔ c = ')' ∧ opened = 0 := by
  unfold BracketCount.step? parens
  by_cases opens : c = '('
  · simp [opens]
  · by_cases closes : c = ')'
    · cases opened with
      | zero => simp [closes]
      | succ outer => simp [closes]
    · simp [opens, closes]

theorem toClosingParen?_cons (opened : Nat) (c : Char) (text : List Char) :
    toClosingParen? opened (c :: text) =
      match parens.step? opened c with
      | none => some ([], text)
      | some left => (toClosingParen? left text).map fun sides => (c :: sides.1, sides.2) := by
  rw [toClosingParen?.eq_def]
  unfold BracketCount.step? parens
  by_cases opens : c = '('
  · simp [opens]
  · by_cases closes : c = ')'
    · cases opened with
      | zero => simp [closes]
      | succ outer => simp [closes]
    · simp [opens, closes]

/-- An argument list ends where the depth of parentheses first falls below zero. -/
theorem toClosingParen?_eq_some_iff :
    toClosingParen? opened text = some (list, after) ↔
      text = list ++ ')' :: after ∧ list.foldlM parens.step? opened = some 0 := by
  induction text generalizing opened list with
  | nil => simp [toClosingParen?]
  | cons c text ih =>
      rw [toClosingParen?_cons]
      cases step : parens.step? opened c with
      | none =>
          rcases step?_parens_eq_none_iff.mp step with ⟨rfl, rfl⟩
          cases list with
          | nil => simp
          | cons d list =>
              simp only [Option.some.injEq, Prod.mk.injEq, List.nil_eq, reduceCtorEq, false_and,
                List.cons_append, List.cons.injEq, List.foldlM_cons, false_iff, not_and]
              rintro ⟨rfl, -⟩ steps
              rw [step] at steps
              cases steps
      | some left =>
          simp only [Option.map_eq_some_iff, Prod.exists, Prod.mk.injEq]
          cases list with
          | nil =>
              simp only [List.cons_ne_nil, false_and, and_false, exists_false, List.nil_append,
                List.cons.injEq, List.foldlM_nil, Option.pure_def, Option.some.injEq, false_iff]
              rintro ⟨⟨rfl, -⟩, rfl⟩
              rw [step?_parens_eq_none_iff.mpr ⟨rfl, rfl⟩] at step
              cases step
          | cons d list =>
              simp only [List.cons.injEq, List.cons_append, List.foldlM_cons]
              constructor
              · rintro ⟨list, after, found, ⟨rfl, rfl⟩, rfl⟩
                rcases ih.mp found with ⟨split, steps⟩
                exact ⟨⟨rfl, split⟩, by simp [step, steps]⟩
              · rintro ⟨⟨rfl, split⟩, steps⟩
                simp only [step, Option.bind_eq_bind, Option.bind_some] at steps
                exact ⟨list, after, ih.mpr ⟨split, steps⟩, ⟨rfl, rfl⟩, rfl⟩

/-- A text whose steps succeed closes no parenthesis that was open before it. -/
theorem toClosingParen?_steps (steps : text.foldlM parens.step? opened = some left)
    (more : List Char) :
    toClosingParen? opened (text ++ more) =
      (toClosingParen? left more).map fun sides => (text ++ sides.1, sides.2) := by
  induction text generalizing opened with
  | nil =>
      obtain rfl : opened = left := Option.some.inj steps
      simp
  | cons c text ih =>
      rw [List.foldlM_cons] at steps
      rcases Option.bind_eq_some_iff.mp steps with ⟨next, step, steps⟩
      rw [List.cons_append, toClosingParen?_cons, step]
      dsimp only
      rw [ih steps, Option.map_map]
      rfl

end HeaderBindings.Header
