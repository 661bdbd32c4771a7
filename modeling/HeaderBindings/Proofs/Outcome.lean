import HeaderBindings.Proofs.Related

/-!
# Computations that succeed or fail

When a computation that can fail has a result, so have its parts; when it
fails, then at the first part that does.  The lemmas take such a computation
apart at a bind, at a change of its error, and at a list that is gone through
element by element.
-/

namespace HeaderBindings.Outcome

variable {ε δ α β : Type}

theorem bind_eq_ok_iff {outcome : Except ε α} {next : α → Except ε β} {result : β} :
    outcome >>= next = .ok result ↔
      ∃ value, outcome = .ok value ∧ next value = .ok result := by
  cases outcome with
  | error failure =>
      simp [bind, Except.bind]
  | ok value =>
      simp [bind, Except.bind]

theorem exists_bind_ok_iff {outcome : Except ε α} {next : α → Except ε β} :
    (∃ result, outcome >>= next = .ok result) ↔
      ∃ value, outcome = .ok value ∧ ∃ result, next value = .ok result := by
  simp only [bind_eq_ok_iff]
  constructor
  · rintro ⟨result, value, succeeded, after⟩
    exact ⟨value, succeeded, result, after⟩
  · rintro ⟨value, succeeded, result, after⟩
    exact ⟨result, value, succeeded, after⟩

theorem map_eq_ok_iff {outcome : Except ε α} {change : α → β} {result : β} :
    outcome.map change = .ok result ↔
      ∃ value, outcome = .ok value ∧ change value = result := by
  cases outcome with
  | error failure =>
      simp [Except.map]
  | ok value =>
      simp [Except.map]

theorem mapError_eq_ok_iff {outcome : Except ε α} {change : ε → δ} {result : α} :
    outcome.mapError change = .ok result ↔ outcome = .ok result := by
  cases outcome with
  | error failure =>
      simp [Except.mapError]
  | ok value =>
      simp [Except.mapError]

theorem toOption_map (outcome : Except ε α) (change : α → β) :
    (outcome.map change).toOption = outcome.toOption.map change := by
  cases outcome <;> rfl

theorem toOption_eq_some_iff {outcome : Except ε α} {value : α} :
    outcome.toOption = some value ↔ outcome = .ok value := by
  cases outcome with
  | error failure =>
      simp [Except.toOption]
  | ok result =>
      simp [Except.toOption]

/-- A list is gone through with success when each element has its result. -/
theorem mapM_eq_ok_iff {step : α → Except ε β} {values : List α} {results : List β} :
    values.mapM step = .ok results ↔
      List.Forall₂ (fun value result => step value = .ok result) values results := by
  induction values generalizing results with
  | nil =>
      rw [List.mapM_nil, List.forall₂_nil_left_iff]
      constructor
      · intro equal
        cases equal
        rfl
      · rintro rfl
        rfl
  | cons value rest ih =>
      rw [List.mapM_cons, bind_eq_ok_iff, List.forall₂_cons_left_iff]
      constructor
      · rintro ⟨first, firstOk, after⟩
        rcases bind_eq_ok_iff.mp after with ⟨others, othersOk, equal⟩
        cases equal
        exact ⟨first, others, firstOk, ih.mp othersOk, rfl⟩
      · rintro ⟨first, others, firstOk, related, rfl⟩
        refine ⟨first, firstOk, ?_⟩
        exact bind_eq_ok_iff.mpr ⟨others, ih.mpr related, rfl⟩

/-! ## Failures -/

section Failures

variable {step : α → Except ε β} {values : List α} {failure : ε}

theorem bind_eq_error_iff {outcome : Except ε α} {next : α → Except ε β} :
    outcome >>= next = .error failure ↔
      outcome = .error failure ∨ ∃ value, outcome = .ok value ∧ next value = .error failure := by
  cases outcome with
  | error other => simp [bind, Except.bind]
  | ok value => simp [bind, Except.bind]

theorem map_eq_error_iff {outcome : Except ε α} {change : α → β} :
    outcome.map change = .error failure ↔ outcome = .error failure := by
  cases outcome with
  | error error => simp [Except.map]
  | ok value => simp [Except.map]

theorem mapError_eq_error_iff {outcome : Except ε α} {change : ε → δ} {failure : δ} :
    outcome.mapError change = .error failure ↔
      ∃ error, outcome = .error error ∧ change error = failure := by
  cases outcome with
  | error error => simp [Except.mapError]
  | ok value => simp [Except.mapError]

/-- A computation that has no result fails. -/
theorem exists_error_iff {outcome : Except ε α} :
    (∃ error, outcome = .error error) ↔ ¬ ∃ value, outcome = .ok value := by
  cases outcome with
  | error error => simp
  | ok value => simp

/-- Going through a list fails at the first element that has no result. -/
theorem mapM_eq_error_iff :
    values.mapM step = .error failure ↔
      ∃ before value after, values = before ++ value :: after ∧
        (∀ earlier ∈ before, ∃ result, step earlier = .ok result) ∧
        step value = .error failure := by
  induction values with
  | nil => simp [pure, Except.pure]
  | cons first rest ih =>
      rw [List.mapM_cons, bind_eq_error_iff]
      constructor
      · rintro (failed | ⟨result, firstOk, after⟩)
        · exact ⟨[], first, rest, rfl, by simp, failed⟩
        · rcases bind_eq_error_iff.mp after with restFailed | ⟨results, _, impossible⟩
          · rcases ih.mp restFailed with ⟨before, value, later, rfl, succeeded, failed⟩
            refine ⟨first :: before, value, later, rfl, ?_, failed⟩
            exact List.forall_mem_cons.mpr ⟨⟨result, firstOk⟩, succeeded⟩
          · cases impossible
      · rintro ⟨before, value, later, split, succeeded, failed⟩
        cases before with
        | nil =>
            cases split
            exact Or.inl failed
        | cons other before =>
            cases split
            rcases List.forall_mem_cons.mp succeeded with ⟨⟨result, firstOk⟩, others⟩
            refine Or.inr ⟨result, firstOk, bind_eq_error_iff.mpr (Or.inl ?_)⟩
            exact ih.mpr ⟨before, value, later, rfl, others, failed⟩

/-- A list is gone through with success exactly if every element has a result. -/
theorem exists_mapM_ok_iff :
    (∃ results, values.mapM step = .ok results) ↔
      ∀ value ∈ values, ∃ result, step value = .ok result := by
  constructor
  · rintro ⟨results, succeeded⟩ value member
    have related := mapM_eq_ok_iff.mp succeeded
    rcases Related.exists_of_mem_left related member with ⟨result, _, partner⟩
    exact ⟨result, partner⟩
  · intro each
    by_contra none
    rcases exists_error_iff.mpr none with ⟨error, failed⟩
    rcases mapM_eq_error_iff.mp failed with ⟨before, value, after, rfl, _, valueFailed⟩
    rcases each value (by simp) with ⟨result, succeeded⟩
    rw [valueFailed] at succeeded
    cases succeeded

end Failures

end HeaderBindings.Outcome
