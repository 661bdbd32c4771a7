import HeaderBindings.Proofs.Header.ArgumentPieces

/-!
# Bracketed texts

An argument list is read twice: its end is found by counting parentheses alone,
and its commas are told apart by counting brackets without regard to their
kind.  Both counts are right on a text whose brackets are properly nested, each
closed by one of its own kind.  What one character does to the brackets that
are open is said once, and both counts follow it along the text.
-/

namespace HeaderBindings.Header

/-! ## Proper nesting -/

/-- The opening brackets, each with the one that closes it. -/
def brackets : List (Char × Char) :=
  [('(', ')'), ('[', ']'), ('\x7b', '\x7d'), ('<', '>')]

/-- The bracket that closes an opening one. -/
def closing? (c : Char) : Option Char :=
  brackets.lookup c

/--
The closing brackets that are awaited after one more character, the innermost
first.  A closing bracket has to be the one that is awaited, and a comma has to
stand inside brackets.
-/
def await? (awaited : List Char) (c : Char) : Option (List Char) :=
  match closing? c with
  | some close => some (close :: awaited)
  | none =>
    if closesBracket c then
      match awaited with
      | close :: outer => if c = close then some outer else none
      | [] => none
    else if c = ',' ∧ awaited = [] then none
    else some awaited

/-- The brackets of a text are properly nested, and no comma stands outside them. -/
def isPiece (text : List Char) : Bool :=
  text.foldlM await? [] == some []

/-- What one character does to the brackets that are open. -/
inductive Awaits (awaited : List Char) (c : Char) : List Char → Prop where
  | opens (pair : closing? c = some close) : Awaits awaited c (close :: awaited)
  | closes (plain : closing? c = none) (closing : closesBracket c = true)
      (innermost : awaited = c :: outer) : Awaits awaited c outer
  | other (plain : closing? c = none) (notClosing : closesBracket c = false)
      (inside : c = ',' → awaited ≠ []) : Awaits awaited c awaited

variable {awaited left text more : List Char} {c close : Char}

theorem awaits_of_await? (step : await? awaited c = some left) : Awaits awaited c left := by
  unfold await? at step
  cases pair : closing? c with
  | some close =>
      simp only [pair, Option.some.injEq] at step
      subst step
      exact .opens pair
  | none =>
      simp only [pair] at step
      cases closing : closesBracket c with
      | true =>
          rw [if_pos closing] at step
          cases awaited with
          | nil => cases step
          | cons close outer =>
              dsimp only at step
              split at step
              · rename_i same
                cases step
                exact .closes pair closing (by rw [same])
              · cases step
      | false =>
          rw [closing, if_neg Bool.false_ne_true] at step
          split at step
          · cases step
          · rename_i inside
            cases step
            exact .other pair closing (fun comma outermost => inside ⟨comma, outermost⟩)

theorem foldlM_await?_cons (nested : (c :: text).foldlM await? awaited = some left) :
    ∃ next, Awaits awaited c next ∧ text.foldlM await? next = some left := by
  rw [List.foldlM_cons] at nested
  rcases Option.bind_eq_some_iff.mp nested with ⟨next, step, rest⟩
  exact ⟨next, awaits_of_await? step, rest⟩

theorem mem_brackets (pair : closing? c = some close) : (c, close) ∈ brackets := by
  rcases List.lookup_eq_some_iff.mp pair with ⟨before, after, split, _⟩
  rw [split]
  exact List.mem_append_right _ List.mem_cons_self

theorem opensBracket_of_closing? (pair : closing? c = some close) : opensBracket c = true := by
  have opening : ∀ bracket ∈ brackets, opensBracket bracket.1 = true := by decide
  exact opening _ (mem_brackets pair)

/-- A parenthesis is matched with its own kind. -/
theorem paren_of_closing? (pair : closing? c = some close) : c ≠ ')' ∧ (c = '(' ↔ close = ')') := by
  have kinds : ∀ bracket ∈ brackets, bracket.1 ≠ ')' ∧ (bracket.1 = '(' ↔ bracket.2 = ')') := by
    decide
  exact kinds _ (mem_brackets pair)

theorem closing?_eq_none_iff : closing? c = none ↔ opensBracket c = false := by
  simp [closing?, brackets, List.lookup_eq_none_iff, opensBracket, and_assoc]

theorem isPiece_iff : isPiece text = true ↔ text.foldlM await? [] = some [] := by
  rw [isPiece, beq_iff_eq]

theorem isPiece_append (isPieceText : isPiece text = true) (isPieceMore : isPiece more = true) :
    isPiece (text ++ more) = true := by
  rw [isPiece_iff] at isPieceText isPieceMore ⊢
  rw [List.foldlM_append, isPieceText]
  exact isPieceMore

theorem isPiece_plain (plain : ∀ c ∈ text, delimits c = false) : isPiece text = true := by
  rw [isPiece_iff]
  induction text with
  | nil => rfl
  | cons c text ih =>
      rcases List.forall_mem_cons.mp plain with ⟨isPlain, rest⟩
      rw [delimits, Bool.or_eq_false_iff, Bool.or_eq_false_iff, beq_eq_false_iff_ne] at isPlain
      rcases isPlain with ⟨⟨notComma, notOpening⟩, notClosing⟩
      have noPair := closing?_eq_none_iff.mpr notOpening
      have step : await? [] c = some [] := by simp [await?, noPair, notClosing, notComma]
      rw [List.foldlM_cons, step]
      exact ih rest

/-! ## Both counts -/

open BracketCount (parens)

theorem pieceStep?_of_awaits (step : Awaits awaited c left) :
    pieceStep? awaited.length c = some left.length := by
  cases step with
  | opens pair =>
      have opening := opensBracket_of_closing? pair
      have notComma : c ≠ ',' := by
        rintro rfl
        cases opening
      rw [pieceStep?, if_neg (fun outer => notComma outer.1)]
      simp [BracketCount.step?, BracketCount.allKinds, opening]
  | closes plain closing innermost =>
      have notComma : c ≠ ',' := by
        rintro rfl
        cases closing
      rw [pieceStep?, if_neg (fun outer => notComma outer.1), innermost]
      simp [BracketCount.step?, BracketCount.allKinds, closing, closing?_eq_none_iff.mp plain]
  | other plain notClosing inside =>
      have inner : ¬ (c = ',' ∧ awaited.length = 0) := by
        rintro ⟨comma, outermost⟩
        exact inside comma (List.length_eq_zero_iff.mp outermost)
      rw [pieceStep?, if_neg inner]
      exact BracketCount.step?_plain (closing?_eq_none_iff.mp plain) notClosing

/-- Brackets of other kinds come and go without a change in the count of parentheses. -/
theorem step?_parens_of_awaits (step : Awaits awaited c left) :
    parens.step? (awaited.count ')') c = some (left.count ')') := by
  unfold BracketCount.step? parens
  cases step with
  | @opens close pair =>
      rcases paren_of_closing? pair with ⟨notClosing, isParen⟩
      by_cases paren : c = '('
      · simp [paren, isParen.mp paren]
      · have other : close ≠ ')' := fun isClosing => paren (isParen.mpr isClosing)
        simp [paren, notClosing, List.count_cons_of_ne other]
  | @closes outer plain closing innermost =>
      have notOpening : c ≠ '(' := by
        rintro rfl
        cases plain
      subst innermost
      by_cases paren : c = ')'
      · simp [paren]
      · simp [notOpening, paren, List.count_cons_of_ne paren]
  | other plain notClosing inside =>
      have notOpening : c ≠ '(' := by
        rintro rfl
        cases plain
      have notParen : c ≠ ')' := by
        rintro rfl
        cases notClosing
      simp [notOpening, notParen]

/-- Properly nested brackets are closed for both counts. -/
theorem foldlM_steps_of_nested (nested : text.foldlM await? awaited = some left) :
    text.foldlM pieceStep? awaited.length = some left.length ∧
      text.foldlM parens.step? (awaited.count ')') = some (left.count ')') := by
  induction text generalizing awaited with
  | nil =>
      cases nested
      exact ⟨rfl, rfl⟩
  | cons c text ih =>
      rcases foldlM_await?_cons nested with ⟨next, step, rest⟩
      rw [List.foldlM_cons, List.foldlM_cons, pieceStep?_of_awaits step,
        step?_parens_of_awaits step]
      exact ih rest

theorem listable_of_isPiece (isPieceText : isPiece text = true) : Listable text :=
  listable_iff_foldlM.mpr (foldlM_steps_of_nested (isPiece_iff.mp isPieceText))

/-! ## Lists of pieces -/

section

variable {texts : List String} (pieces : ∀ text ∈ texts, isPiece text.toList = true)
include pieces

theorem toClosingParen?_joinWith (more : List Char) :
    toClosingParen? 0 ((Text.joinWith ", " texts).toList ++ more) =
      (toClosingParen? 0 more).map fun sides =>
        ((Text.joinWith ", " texts).toList ++ sides.1, sides.2) :=
  toClosingParen?_joined (fun text member => listable_of_isPiece (pieces text member)) more

/-- The arguments of a list are its pieces, if they are trimmed texts with nested brackets. -/
theorem splitArguments_joinWith
    (trimmed : ∀ text ∈ texts, Text.Trimmed text)
    (isText : ∀ text ∈ texts, text.toList ≠ [])
    (notVoid : texts ≠ ["void"]) :
    splitArguments (Text.joinWith ", " texts) = .ok texts :=
  splitArguments_texts
    (fun text member => ⟨trimmed text member, (listable_of_isPiece (pieces text member)).undivided⟩)
    isText notVoid

end

end HeaderBindings.Header
