import HeaderBindings.Proofs.Interface.HeaderOrder

/-!
# Accepted interfaces and their headers

Every class of an interface that is accepted is what the resolution makes of a
class that the scan of one of the headers completes.  All headers are scanned
to their end, and the names of the classes are words.
-/

namespace HeaderBindings

/-! ## The classes that are gathered -/

theorem mem_foldl_upsertInto {classes table : List Class} {c : Class}
    (member : c ∈ classes.foldl (fun table c => Api.upsertInto c table) table)
    (names : (table.map Class.name).Nodup) : c ∈ table ∨ c ∈ classes := by
  induction classes generalizing table with
  | nil => exact Or.inl member
  | cons first rest ih =>
      rcases ih member (Header.nodup_upsertInto names first) with inTable | inRest
      · rcases (Header.mem_upsertInto names).mp inTable with rfl | ⟨old, _⟩
        · exact Or.inr List.mem_cons_self
        · exact Or.inl old
      · exact Or.inr (List.mem_cons_of_mem _ inRest)

section Accepted

variable {options : Header.Options} {sources : List HeaderSource} {api : Api}

theorem accepted_complete (accepted : (extract options sources).result = .ok api) :
    sources.any (HeaderSource.fails options) = false := by
  have complete : (gather options {} sources).failure.isSome = false := by
    rw [extract, Gathered.finish] at accepted
    split at accepted
    · cases accepted
    · rename_i none
      rw [none]
      rfl
  rwa [isSome_gather_failure] at complete

/-- Every class that is gathered has been completed by the scan of a header. -/
theorem scanned_of_mem_gathered (complete : sources.any (HeaderSource.fails options) = false)
    {c : Class} (gathered : c ∈ (gather options {} sources).api.classes) :
    ∃ source ∈ sources,
      Header.Finding.complete c ∈ (Header.scan options source.name source.text).findings := by
  rw [gather_api complete, foldl_upsert_classes] at gathered
  rcases mem_foldl_upsertInto gathered List.nodup_nil with ⟨⟨⟩⟩ | inSources
  rcases List.mem_flatMap.mp inSources with ⟨source, isSource, scanned⟩
  exact ⟨source, isSource, Header.mem_classesOf.mp scanned⟩

/-- The names of the classes of an interface that is accepted are words. -/
theorem accepted_wordNamed (accepted : (extract options sources).result = .ok api) :
    ∀ c ∈ api.classes, c.WordNamed := by
  intro c inApi
  rcases extract_ok accepted with ⟨index, _, related⟩
  rcases Related.exists_of_mem_right related inApi with ⟨declared, gathered, pair⟩
  rcases scanned_of_mem_gathered (accepted_complete accepted) gathered with ⟨source, _, scanned⟩
  rw [Class.WordNamed, pair.name]
  exact kept_wordNamed.scan options source.name source.text declared scanned

end Accepted

/-! ## The last enum of a name -/

theorem qualifiedName_injective (owner : String) : Function.Injective (qualifiedName owner) :=
  fun _ _ same => (String.append_right_inj _).mp same

/-- Classes of different names have no qualified name in common, so the last enum of a name in a
class is the last one of its qualified name. -/
theorem Resolve.lastOf_ownedEnums {classes : List Class}
    (names : (classes.map Class.name).Nodup) (wordNamed : ∀ c ∈ classes, c.WordNamed)
    {c : Class} (inClasses : c ∈ classes) {e : EnumType}
    (last : Table.LastOf EnumType.name c.enums e) :
    Table.LastOf (fun owned => qualifiedName owned.1 owned.2.name)
      (Resolve.ownedEnums classes) (c.name, e) := by
  refine (Table.lastOf_flatMap ?_).mpr ⟨c, inClasses, ?_⟩
  · intro c inClasses d alsoInClasses different x inFirst y inSecond same
    rcases List.mem_map.mp inFirst with ⟨e, _, rfl⟩
    rcases List.mem_map.mp inSecond with ⟨f, _, rfl⟩
    exact different (class_of_qualifiedName names wordNamed inClasses alsoInClasses same)
  · rcases last with ⟨before, after, split, free⟩
    refine ⟨before.map fun e => (c.name, e), after.map fun e => (c.name, e), ?_, ?_⟩
    · rw [split, List.map_append, List.map_cons]
    · intro owned member same
      rcases List.mem_map.mp member with ⟨f, inAfter, rfl⟩
      exact free f inAfter (qualifiedName_injective c.name same)

end HeaderBindings
