import HeaderBindings.Proofs.Interface.Accepted

/-!
# Names that stand free

A name stands free in a text where no longer name surrounds it.  The search for
a name goes from left to right and passes over each occurrence as a whole, so it
does not see the occurrences that overlap an earlier one.  It finds a name that
stands free all the same: an occurrence that starts inside another one has a
character of the name before it.
-/

namespace HeaderBindings.Resolve

/-- A character of a qualified name. -/
def isNameChar (c : Char) : Bool :=
  isIdentifierChar c || c == ':'

/-- Whether a name that stands between two characters, or at an end of the text, is free there. -/
def isFree (previous next : Option Char) : Bool :=
  !previous.any isNameChar && !next.any isIdentifierChar

/-- A name occurs in a text with no character of a name before it and none of an identifier after
it. -/
def StandsFree (name text : List Char) : Prop :=
  ∃ before after, text = before ++ (name ++ after) ∧
    (∀ c ∈ before.getLast?, isNameChar c = false) ∧ ∀ c ∈ after.head?, isIdentifierChar c = false

/-! ## The search -/

section Search

variable {name text : List Char}

theorem isFree_iff {previous next : Option Char} :
    isFree previous next = true ↔
      (∀ c ∈ previous, isNameChar c = false) ∧ ∀ c ∈ next, isIdentifierChar c = false := by
  cases previous <;> cases next <;> simp [isFree]

/-- What surrounds an occurrence that starts inside another one is not free. -/
theorem not_isFree_of_overlap {before : List Char} {previous next : Option Char}
    (isName : ∀ c ∈ name, isNameChar c = true) (starts : before <+: name) (nonempty : before ≠ []) :
    isFree (before.getLast?.or previous) next = false := by
  have last : isNameChar (before.getLast nonempty) = true :=
    isName _ (starts.subset (List.getLast_mem nonempty))
  rw [List.getLast?_eq_some_getLast nonempty, Option.some_or, isFree, Option.any_some, last]
  rfl

/-- A name stands free in a text that follows a character, some characters from the start or
later. -/
def FreeFrom (name : List Char) (previous : Option Char) (skipped : Nat) (text : List Char) :
    Prop :=
  ∃ before after, text = before ++ (name ++ after) ∧ skipped ≤ before.length ∧
    isFree (before.getLast?.or previous) after.head? = true

theorem freeFrom_succ_cons {previous : Option Char} {skipped : Nat} {c : Char} {rest : List Char} :
    FreeFrom name previous (skipped + 1) (c :: rest) ↔ FreeFrom name (some c) skipped rest := by
  constructor
  · rintro ⟨before, after, split, beyond, free⟩
    cases before with
    | nil => simp at beyond
    | cons d before =>
        cases split
        refine ⟨before, after, rfl, by simpa using beyond, ?_⟩
        rwa [List.getLast?_cons, Option.some_or, ← Option.or_some] at free
  · rintro ⟨before, after, rfl, beyond, free⟩
    refine ⟨c :: before, after, rfl, by simpa using beyond, ?_⟩
    rwa [List.getLast?_cons, Option.some_or, ← Option.or_some]

theorem FreeFrom.mono {previous : Option Char} {skipped fewer : Nat}
    (free : FreeFrom name previous skipped text) (le : fewer ≤ skipped) :
    FreeFrom name previous fewer text := by
  rcases free with ⟨before, after, split, beyond, free⟩
  exact ⟨before, after, split, le.trans beyond, free⟩

/-- Where a name does not start, every occurrence starts later. -/
theorem FreeFrom.one_of_not_starts {previous : Option Char}
    (free : FreeFrom name previous 0 text) (absent : name.isPrefixOf? text = none) :
    FreeFrom name previous 1 text := by
  rcases free with ⟨before, after, split, -, free⟩
  refine ⟨before, after, split, ?_, free⟩
  cases before with
  | nil =>
      have starts : name ++ after = text := split.symm
      rw [List.isPrefixOf?_eq_some_iff_append_eq.mpr starts] at absent
      cases absent
  | cons => simp

/-- Where a name starts, it is free there or every free occurrence starts behind it. -/
theorem FreeFrom.behind_of_starts {previous : Option Char} {tail : List Char}
    (isName : ∀ c ∈ name, isNameChar c = true)
    (free : FreeFrom name previous 0 (name ++ tail)) :
    isFree previous tail.head? = true ∨ FreeFrom name previous name.length (name ++ tail) := by
  rcases free with ⟨before, after, split, -, free⟩
  rcases Nat.lt_or_ge before.length name.length with inside | behind
  · left
    have starts : before <+: name :=
      List.prefix_of_prefix_length_le ⟨_, split.symm⟩ ⟨_, rfl⟩ inside.le
    cases before with
    | nil =>
        rw [List.append_cancel_left split]
        exact free
    | cons c before =>
        rw [not_isFree_of_overlap isName starts (by simp)] at free
        cases free
  · exact Or.inr ⟨before, after, split, behind, free⟩

/-- Of the occurrences from some place on, the search finds one that is free exactly if there is
one. -/
theorem occursAsWord_iff_freeFrom
    (isName : ∀ c ∈ name, isNameChar c = true) (nonempty : name ≠ [])
    {previous : Option Char} {skipped : Nat} :
    occursAsWord name previous skipped text = true ↔ FreeFrom name previous skipped text := by
  induction text generalizing previous skipped with
  | nil => simp [occursAsWord, FreeFrom, nonempty]
  | cons c rest ih =>
      cases skipped with
      | succ n => rw [occursAsWord, ih, freeFrom_succ_cons]
      | zero =>
          rw [occursAsWord]
          split
          · rename_i absent
            rw [ih, ← freeFrom_succ_cons]
            exact ⟨fun free => free.mono (Nat.zero_le _), fun free => free.one_of_not_starts absent⟩
          · rename_i tail found
            have starts := List.append_eq_of_isPrefixOf?_eq_some found
            have positive : name.length - 1 + 1 = name.length :=
              Nat.sub_add_cancel (List.length_pos_iff.mpr nonempty)
            change (isFree previous tail.head? || _) = true ↔ _
            rw [Bool.or_eq_true, ih, ← freeFrom_succ_cons, positive, ← starts]
            constructor
            · rintro (free | free)
              · exact ⟨[], tail, rfl, Nat.zero_le _, free⟩
              · exact free.mono (Nat.zero_le _)
            · exact fun free => free.behind_of_starts isName

/-- The search finds every name that stands free. -/
theorem occursAsWord_iff_standsFree
    (isName : ∀ c ∈ name, isNameChar c = true) (nonempty : name ≠ []) :
    occursAsWord name none 0 text = true ↔ StandsFree name text := by
  rw [occursAsWord_iff_freeFrom isName nonempty]
  simp only [FreeFrom, Option.or_none, Nat.zero_le, true_and, isFree_iff]
  rfl

end Search

/-! ## Qualified names -/

/-- A name of ASCII letters, digits and underscores. -/
def IsAsciiName (name : String) : Prop :=
  ∀ c ∈ name.toList, isIdentifierChar c = true

instance (name : String) : Decidable (IsAsciiName name) :=
  decidable_of_iff (name.toList.all isIdentifierChar = true) List.all_eq_true

section Qualified

variable {owner name otherOwner otherName : String}

theorem toList_qualifiedName (owner name : String) :
    (qualifiedName owner name).toList = owner.toList ++ ':' :: ':' :: name.toList := by
  simp [qualifiedName, String.toList_append]

theorem IsAsciiName.colon_notMem (ascii : IsAsciiName name) : ':' ∉ name.toList :=
  fun member => absurd (ascii ':' member) (by decide)

theorem isNameChar_of_mem_qualifiedName
    (ownerAscii : IsAsciiName owner) (ascii : IsAsciiName name) :
    ∀ c ∈ (qualifiedName owner name).toList, isNameChar c = true := by
  intro c member
  rw [toList_qualifiedName] at member
  simp only [List.mem_append, List.mem_cons] at member
  rw [isNameChar, Bool.or_eq_true]
  rcases member with inOwner | rfl | rfl | inName
  · exact Or.inl (ownerAscii c inOwner)
  · exact Or.inr rfl
  · exact Or.inr rfl
  · exact Or.inl (ascii c inName)

/-- A type mentions exactly the qualified names that stand free in its bare form. -/
theorem mentions_iff_standsFree {type : String}
    (ownerAscii : IsAsciiName owner) (ascii : IsAsciiName name) :
    Mentions type (qualifiedName owner name) ↔
      StandsFree (qualifiedName owner name).toList (Typing.bareType type).toList :=
  occursAsWord_iff_standsFree (isNameChar_of_mem_qualifiedName ownerAscii ascii)
    (by simp [toList_qualifiedName])

theorem standsFree_self (name : List Char) : StandsFree name name :=
  ⟨[], [], by simp, by simp, by simp⟩

/-- In a qualified name no other one stands free. -/
theorem eq_of_standsFree_qualifiedName
    (ownerAscii : IsAsciiName owner) (ascii : IsAsciiName name)
    (free : StandsFree (qualifiedName otherOwner otherName).toList
      (qualifiedName owner name).toList) :
    qualifiedName otherOwner otherName = qualifiedName owner name := by
  rcases free with ⟨before, after, split, freeBefore, freeAfter⟩
  have same : qualifiedName owner name =
      qualifiedName (.ofList before ++ otherOwner) (otherName ++ .ofList after) := by
    apply String.toList_injective
    rw [split]
    simp [toList_qualifiedName]
  -- both colons of the text belong to the name that stands in it
  have colons : ':' ∉ (String.ofList before ++ otherOwner).toList := by
    have counts := congrArg (fun text => text.toList.count ':') same
    simp only [toList_qualifiedName, String.toList_append, List.count_append, List.count_cons_self,
      List.count_eq_zero_of_not_mem ownerAscii.colon_notMem,
      List.count_eq_zero_of_not_mem ascii.colon_notMem] at counts
    rw [← List.count_eq_zero, String.toList_append, List.count_append]
    omega
  have owners := owner_of_qualifiedName ownerAscii.colon_notMem colons same
  have names : name = otherName ++ .ofList after := by
    rw [← owners] at same
    exact qualifiedName_injective owner same
  have noBefore : before = [] := by
    rw [← List.getLast?_eq_none_iff]
    cases last : before.getLast? with
    | none => rfl
    | some c =>
        have inOwner : c ∈ owner.toList := by
          rw [owners]
          simp [List.mem_of_getLast? last]
        have notName := freeBefore c last
        rw [isNameChar, ownerAscii c inOwner] at notName
        cases notName
  have noAfter : after = [] := by
    rw [← List.head?_eq_none_iff]
    cases first : after.head? with
    | none => rfl
    | some c =>
        have inName : c ∈ name.toList := by
          rw [names]
          simp [List.mem_of_head? first]
        have notIdentifier := freeAfter c first
        rw [ascii c inName] at notIdentifier
        cases notIdentifier
  rw [same, noBefore, noAfter]
  simp

end Qualified

end HeaderBindings.Resolve
