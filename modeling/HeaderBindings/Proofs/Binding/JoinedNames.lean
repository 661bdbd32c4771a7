import Mathlib.Data.List.Nodup
import Mathlib.Data.List.Pairwise
import Mathlib.Data.String.Basic

/-!
# Joined names

Generated names are made of the name of an owner, an underscore and a local
name.  As names may hold underscores themselves, one generated name can be read
in several ways.  Two readings differ in where the underscore is, and then the
name of one owner continues that of the other.
-/

namespace HeaderBindings

/-- The same text with the underscore at another place continues the name in front of it. -/
theorem continued_of_append {left right first second : List Char} {mark : Char} {front : List Char}
    (isLeft : left = right ++ front) (isSecond : mark :: second = front ++ mark :: first) :
    left = right ∨
      ∃ middle, left = right ++ mark :: middle ∧ second = middle ++ mark :: first := by
  cases front with
  | nil =>
      rw [List.append_nil] at isLeft
      exact Or.inl isLeft
  | cons c middle =>
      rw [List.cons_append, List.cons.injEq] at isSecond
      rcases isSecond with ⟨rfl, isSecond⟩
      exact Or.inr ⟨middle, isLeft, isSecond⟩

/-- One joined name of two owners: they are equal, or one of them continues the other. -/
theorem joined_cases {left right first second : String}
    (equal : left ++ "_" ++ first = right ++ "_" ++ second) :
    left = right ∨
    (∃ middle, left = right ++ "_" ++ middle ∧ second = middle ++ "_" ++ first) ∨
    ∃ middle, right = left ++ "_" ++ middle ∧ first = middle ++ "_" ++ second := by
  have asText {longer shorter rest whole : String} {middle : List Char}
      (isLonger : longer.toList = shorter.toList ++ '_' :: middle)
      (isWhole : whole.toList = middle ++ '_' :: rest.toList) :
      ∃ text, longer = shorter ++ "_" ++ text ∧ whole = text ++ "_" ++ rest := by
    refine ⟨String.ofList middle, ?_, ?_⟩
    · apply String.toList_injective
      simp [isLonger]
    · apply String.toList_injective
      simp [isWhole]
  have chars : left.toList ++ '_' :: first.toList = right.toList ++ '_' :: second.toList := by
    simpa using congrArg String.toList equal
  rcases List.append_eq_append_iff.mp chars with ⟨front, isRight, isFirst⟩ | ⟨front, isLeft, isSecond⟩
  · rcases continued_of_append isRight isFirst with same | ⟨middle, isRight, isFirst⟩
    · exact Or.inl (String.toList_injective same.symm)
    · exact Or.inr (Or.inr (asText isRight isFirst))
  · rcases continued_of_append isLeft isSecond with same | ⟨middle, isLeft, isSecond⟩
    · exact Or.inl (String.toList_injective same)
    · exact Or.inr (Or.inl (asText isLeft isSecond))

theorem joined_injective (owner : String) : Function.Injective fun name => owner ++ "_" ++ name :=
  fun _ _ same => (String.append_right_inj _).mp same

section Owners

variable {ι : Type} (owner : ι → String) (names : ι → List String)

/-- The names that are generated for an owner. -/
def joinedNames (i : ι) : List String :=
  (names i).map fun name => owner i ++ "_" ++ name

/-- Where one name continues another one at an underscore, no local name of the shorter one
continues in the same way. -/
def Uncontinued (short long : ι) : Prop :=
  ∀ middle, owner long = owner short ++ "_" ++ middle →
    ∀ name ∈ names long, middle ++ "_" ++ name ∉ names short

variable {owner names} {i j : ι}

theorem uncontinued_self : Uncontinued owner names i i := by
  intro middle continued
  have lengths := congrArg String.length continued
  have underscore : "_".length = 1 := by decide
  simp only [String.length_append] at lengths
  omega

theorem Uncontinued.of_disjoint
    (disjoint : (joinedNames owner names i).Disjoint (joinedNames owner names j)) :
    Uncontinued owner names i j := by
  intro middle continued name isName isContinued
  refine disjoint (List.mem_map_of_mem isContinued) (List.mem_map.mpr ⟨name, isName, ?_⟩)
  rw [continued]
  simp [String.append_assoc]

/-- Two owners have no generated name in common exactly if they have no local name in common where
they are equal, and neither one continues the other together with its local names. -/
theorem disjoint_joinedNames_iff :
    (joinedNames owner names i).Disjoint (joinedNames owner names j) ↔
      (owner i = owner j → (names i).Disjoint (names j)) ∧
        Uncontinued owner names i j ∧ Uncontinued owner names j i := by
  constructor
  · intro disjoint
    refine ⟨?_, .of_disjoint disjoint, .of_disjoint fun _ inSecond inFirst => disjoint inFirst inSecond⟩
    intro same name inFirst inSecond
    refine disjoint (List.mem_map_of_mem inFirst) ?_
    rw [same]
    exact List.mem_map_of_mem inSecond
  · rintro ⟨apart, forth, back⟩ joined inFirst inSecond
    rcases List.mem_map.mp inFirst with ⟨first, isFirst, rfl⟩
    rcases List.mem_map.mp inSecond with ⟨second, isSecond, equal⟩
    rcases joined_cases equal with same | ⟨middle, longer, rfl⟩ | ⟨middle, longer, rfl⟩
    · rw [same] at equal
      rw [joined_injective (owner i) equal] at isSecond
      exact apart same.symm isFirst isSecond
    · exact forth middle longer second isSecond isFirst
    · exact back middle longer first isFirst isSecond

/-- Generated names are distinct exactly if no owner repeats a local name, equal owners have none in
common, and no owner continues another one together with a local name. -/
theorem nodup_joinedNames_iff {owners : List ι} :
    (owners.flatMap (joinedNames owner names)).Nodup ↔
      (∀ i ∈ owners, (names i).Nodup) ∧
        owners.Pairwise (fun i j => owner i = owner j → (names i).Disjoint (names j)) ∧
        ∀ short ∈ owners, ∀ long ∈ owners, Uncontinued owner names short long := by
  have within (i : ι) : (joinedNames owner names i).Nodup ↔ (names i).Nodup :=
    List.nodup_map_iff (joined_injective (owner i))
  have across : owners.Pairwise (fun i j =>
      (joinedNames owner names i).Disjoint (joinedNames owner names j)) ↔
      owners.Pairwise (fun i j => owner i = owner j → (names i).Disjoint (names j)) ∧
        owners.Pairwise (Uncontinued owner names) ∧
        owners.Pairwise (flip (Uncontinued owner names)) := by
    rw [← List.pairwise_and_iff, ← List.pairwise_and_iff]
    exact List.Pairwise.iff fun _ _ => disjoint_joinedNames_iff
  rw [List.nodup_flatMap]
  refine and_congr (forall₂_congr fun i _ => within i) (across.trans (and_congr_right fun _ => ?_))
  constructor
  · rintro ⟨forth, back⟩
    exact forth.forall_of_forall_of_flip (fun i _ => uncontinued_self) back
  · intro all
    exact ⟨List.pairwise_of_forall_mem_list all,
      List.pairwise_of_forall_mem_list fun long inOwners short alsoIn => all short alsoIn long inOwners⟩

end Owners

end HeaderBindings
