import HeaderBindings.Proofs.Text.Slice
import HeaderBindings.Typing.Classify

/-!
# Spellings of types

What the bare form of a type and the form without references keep of the
declared spelling.  A type whose bare form is a pointer is still a pointer
once its references are removed.
-/

namespace HeaderBindings.Typing

open HeaderBindings.Text

theorem dropHead_suffix (text head : String) :
    (dropHead text head).toList <:+ text.toList := by
  rw [dropHead]
  cases found : dropHead? text head with
  | none => exact List.suffix_refl _
  | some rest =>
      have split := dropHead?_eq_some_iff.mp found
      rw [split, String.toList_append]
      exact List.suffix_append _ _

/-- The bare form of a type, by the cuts that lead to it. -/
theorem bareType_eq (type : String) :
    bareType type =
      trim (dropHead
        (.ofList (((trim type).toList.rdropWhile (· == '&')).rdropWhile isBlank)) "const ") := by
  rw [bareType, trimEnd, String.toList_ofList, dropEndWhile_eq_rdropWhile,
    dropEndWhile_eq_rdropWhile]

/-- The bare form of a type has no characters of its own. -/
theorem mem_of_mem_bareType {type : String} {c : Char}
    (member : c ∈ (bareType type).toList) : c ∈ type.toList := by
  rw [bareType_eq] at member
  have cut := (dropHead_suffix _ _).subset (mem_of_mem_trim member)
  rw [String.toList_ofList] at cut
  have unblanked := (List.rdropWhile_prefix _ _).subset cut
  have dereferenced := (List.rdropWhile_prefix _ _).subset unblanked
  exact mem_of_mem_trim dereferenced

theorem trimmed_withoutReference (type : String) : Trimmed (withoutReference type) :=
  trimmed_trim _

theorem endsWith_star_iff {text : String} :
    endsWith text "*" = true ↔ text.toList.getLast? = some '*' := by
  rw [endsWith_iff_exists]
  constructor
  · rintro ⟨base, rfl⟩
    simp
  · intro last
    rcases List.getLast?_eq_some_iff.mp last with ⟨before, split⟩
    refine ⟨String.ofList before, ?_⟩
    apply String.toList_injective
    simpa using split

/-- The references and blanks after the star of a pointer. -/
theorem lastBut_of_bareType {type : String}
    (pointer : endsWith (bareType type) "*" = true) :
    LastBut (fun c => isBlank c || c == '&') '*' type.toList := by
  rw [endsWith_star_iff, bareType_eq, toList_trim] at pointer
  rcases List.getLast?_eq_some_iff.mp pointer with ⟨before, split⟩
  have atEnd : LastBut (fun c => isBlank c || c == '&') '*' (before ++ ['*']) :=
    ⟨before, [], rfl, by simp⟩
  rw [← split] at atEnd
  have blanks : ∀ c, isBlank c = true → (isBlank c || c == '&') = true := by
    intro c blank
    simp [blank]
  have references : ∀ c, (c == '&') = true → (isBlank c || c == '&') = true := by
    intro c reference
    simp [reference]
  -- every cut that leads to the bare form removes blanks, references or a head
  have cut := (atEnd.of_rdropWhile blanks).of_dropWhile
  obtain ⟨front, whole⟩ := dropHead_suffix
    (.ofList (((trim type).toList.rdropWhile (· == '&')).rdropWhile isBlank)) "const "
  have uncut := cut.append_left front
  rw [whole, String.toList_ofList] at uncut
  have trimmed := (uncut.of_rdropWhile blanks).of_rdropWhile references
  rw [toList_trim] at trimmed
  exact (trimmed.of_rdropWhile blanks).of_dropWhile

/-- Removing the references of a pointer leaves a pointer. -/
theorem endsWith_withoutReference {type : String}
    (pointer : endsWith (bareType type) "*" = true) :
    endsWith (withoutReference type) "*" = true := by
  have filtered : LastBut isBlank '*' (type.toList.filter (· != '&')) := by
    apply (lastBut_of_bareType pointer).filter
    · decide
    · intro c passed kept
      simp only [Bool.or_eq_true] at passed
      rcases passed with blank | reference
      · exact blank
      · simp_all
  rw [endsWith_star_iff, withoutReference]
  apply LastBut.endsWith_trim (by decide)
  rw [without, String.toList_ofList]
  exact filtered

/-! ## Names as types -/

/-- A type that is a name, up to a `const`, a reference sign and blanks. -/
def Spells (type name : String) : Prop :=
  ∃ qualifier ∈ ["", "const "], ∃ gap space, ∃ reference ∈ ["", "&"],
    (∀ c ∈ gap.toList, isBlank c = true) ∧ (∀ c ∈ space.toList, isBlank c = true) ∧
      type = qualifier ++ (gap ++ (name ++ (space ++ reference)))

/-- The reference sign behind a type is cut off, and so are the blanks around it. -/
theorem cut_reference {indent code space reference : String} {last : Char}
    (indentBlank : ∀ c ∈ indent.toList, isBlank c = true) (trimmed : Trimmed code)
    (finishes : code.toList.getLast? = some last) (noReference : last ≠ '&')
    (spaceBlank : ∀ c ∈ space.toList, isBlank c = true) (isReference : reference ∈ ["", "&"]) :
    (((trim (indent ++ (code ++ (space ++ reference)))).toList.rdropWhile (· == '&')).rdropWhile
      isBlank) = code.toList := by
  have nonempty : code.toList ≠ [] := by
    intro empty
    rw [empty] at finishes
    cases finishes
  have unreferenced : ∀ nonempty : code.toList ≠ [],
      (code.toList.getLast nonempty == '&') = false := by
    intro nonempty
    rw [List.getLast?_eq_some_getLast nonempty, Option.some.injEq] at finishes
    rw [finishes, beq_eq_false_iff_ne]
    exact noReference
  have rest : ∀ c ∈ (trimEnd (space ++ reference)).toList.rdropWhile (· == '&'),
      isBlank c = true := by
    rw [trimEnd, String.toList_ofList, dropEndWhile_eq_rdropWhile, String.toList_append]
    simp only [List.mem_cons, List.not_mem_nil, or_false] at isReference
    rcases isReference with rfl | rfl
    · rw [String.toList_empty, List.append_nil, List.rdropWhile_eq_nil_iff.mpr spaceBlank]
      simp
    · have sign : isBlank '&' = false := by decide +kernel
      rw [show "&".toList = ['&'] from rfl, List.rdropWhile_concat_neg _ _ _ (by simp [sign]),
        List.rdropWhile_concat_pos _ _ _ rfl]
      exact fun c member => spaceBlank c ((List.rdropWhile_prefix _ _).subset member)
  rw [trim_indented _ indentBlank trimmed nonempty, String.toList_append,
    rdropWhile_append_of_last _ unreferenced,
    rdropWhile_append_of_last _ trimmed.finish, List.rdropWhile_eq_nil_iff.mpr rest,
    List.append_nil]

/-- The bare form of a type that is a name is the name. -/
theorem bareType_of_spells {type name : String} (nonempty : name.toList ≠ [])
    (solid : ∀ c ∈ name.toList, isBlank c = false ∧ c ≠ '&') (spells : Spells type name) :
    bareType type = name := by
  obtain ⟨last, finishes⟩ : ∃ last, name.toList.getLast? = some last :=
    ⟨_, List.getLast?_eq_some_getLast nonempty⟩
  have lastSolid := solid last (List.mem_of_getLast? finishes)
  have trimmed : Trimmed name :=
    ⟨fun nonempty => (solid _ (List.head_mem nonempty)).1,
      fun nonempty => (solid _ (List.getLast_mem nonempty)).1⟩
  rcases spells with ⟨qualifier, isQualifier, gap, space, reference, isReference, gapBlank,
    spaceBlank, rfl⟩
  simp only [List.mem_cons, List.not_mem_nil, or_false] at isQualifier
  rw [bareType_eq]
  rcases isQualifier with rfl | rfl
  · have noConst : dropHead name "const " = name := by
      rw [dropHead]
      cases found : dropHead? name "const " with
      | none => rfl
      | some rest =>
          have blank : ' ' ∈ name.toList := by
            rw [dropHead?_eq_some_iff.mp found]
            simp
          exact absurd (solid ' ' blank).1 (by decide +kernel)
    rw [String.empty_append, cut_reference gapBlank trimmed finishes lastSolid.2 spaceBlank
      isReference, String.ofList_toList, noConst, trimmed.trim_eq]
  · have starts : ("const " ++ (gap ++ name)).toList.head? = some 'c' := by simp
    have ends : ("const " ++ (gap ++ name)).toList.getLast? = some last := by
      simp only [String.toList_append, List.getLast?_append, finishes, Option.some_or]
    have noIndent : ∀ c ∈ "".toList, isBlank c = true := by simp
    have cut := cut_reference noIndent
      (trimmed_of_ends starts (by decide +kernel) ends lastSolid.1) ends lastSolid.2 spaceBlank
      isReference
    rw [String.empty_append, String.append_assoc, String.append_assoc] at cut
    have noGap : trim (gap ++ name) = name := by
      have indented := trim_indented "" gapBlank trimmed nonempty
      rw [String.append_empty] at indented
      rw [indented, show trimEnd "" = "" by decide +kernel, String.append_empty]
    rw [cut, String.ofList_toList, dropHead, dropHead?_eq_some_iff.mpr rfl, Option.getD_some, noGap]

end HeaderBindings.Typing
