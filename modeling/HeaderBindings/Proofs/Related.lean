import Mathlib.Data.List.Forall2

/-!
# Related lists

Lists that agree element by element under a relation: each element of one has
its partner in the other, and what partners have in common can be read off
either list.
-/

namespace HeaderBindings.Related

variable {α β γ : Type} {relation : α → β → Prop} {left : List α} {right : List β}

theorem exists_of_mem_right
    (related : List.Forall₂ relation left right) {b : β} (member : b ∈ right) :
    ∃ a ∈ left, relation a b := by
  induction related with
  | nil => cases member
  | cons first _ ih =>
      rcases List.mem_cons.mp member with rfl | later
      · exact ⟨_, List.mem_cons_self, first⟩
      · rcases ih later with ⟨a, inRest, partner⟩
        exact ⟨a, List.mem_cons_of_mem _ inRest, partner⟩

theorem exists_of_mem_left
    (related : List.Forall₂ relation left right) {a : α} (member : a ∈ left) :
    ∃ b ∈ right, relation a b :=
  exists_of_mem_right related.flip member

/-- Where one list is split at an element, the other one is split at its partner. -/
theorem exists_split {before after : List α} {a : α}
    (related : List.Forall₂ relation (before ++ a :: after) right) :
    ∃ earlier b later, right = earlier ++ b :: later ∧ relation a b ∧
      List.Forall₂ relation before earlier ∧ List.Forall₂ relation after later := by
  induction before generalizing right with
  | nil =>
      rcases List.forall₂_cons_left_iff.mp related with ⟨b, later, partner, rest, rfl⟩
      exact ⟨[], b, later, rfl, partner, .nil, rest⟩
  | cons first before ih =>
      rcases List.forall₂_cons_left_iff.mp related with ⟨c, others, firstPartner, rest, rfl⟩
      rcases ih rest with ⟨earlier, b, later, rfl, partner, front, back⟩
      exact ⟨c :: earlier, b, later, rfl, partner, .cons firstPartner front, back⟩

theorem map_eq
    {fromLeft : α → γ} {fromRight : β → γ}
    (common : ∀ a b, relation a b → fromRight b = fromLeft a)
    (related : List.Forall₂ relation left right) :
    right.map fromRight = left.map fromLeft := by
  induction related with
  | nil => rfl
  | cons first _ ih => rw [List.map_cons, List.map_cons, common _ _ first, ih]

theorem flatMap_eq
    {fromLeft : α → List γ} {fromRight : β → List γ}
    (common : ∀ a b, relation a b → fromRight b = fromLeft a)
    (related : List.Forall₂ relation left right) :
    right.flatMap fromRight = left.flatMap fromLeft := by
  rw [List.flatMap_def, List.flatMap_def, map_eq common related]

end HeaderBindings.Related
