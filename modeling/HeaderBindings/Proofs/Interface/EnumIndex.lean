import HeaderBindings.Proofs.Table
import Mathlib.Data.List.Nodup

/-!
# The index of the enums

What an index holds of the enums from which it is made: the last entry of each
qualified name and nothing else.  An index is made exactly when no constant is
declared twice.
-/

namespace HeaderBindings.Resolve

/-- The enums of some classes, each with the name of its class. -/
def ownedEnums (classes : List Class) : List (String × EnumType) :=
  classes.flatMap fun c => c.enums.map fun e => (c.name, e)

/-- The entry of an enum of a class. -/
def entryOf (owned : String × EnumType) : String × TypeClass :=
  (qualifiedName owned.1 owned.2.name,
    .enumeration owned.1 owned.2.name owned.2.underlying)

/-- The names of the constants of an enum. -/
def constantNames (owned : String × EnumType) : List String :=
  owned.2.constants.map EnumConstant.name

/-- An index of a list of enums, whose constants are distinct. -/
structure Indexes (index : EnumIndex) (enums : List (String × EnumType)) : Prop where
  sound : ∀ entry ∈ index, ∃ owned ∈ enums, entry = entryOf owned
  complete : ∀ owned ∈ enums, (entryOf owned).1 ∈ index.map Prod.fst
  distinct : (enums.flatMap constantNames).Nodup

theorem mem_ownedEnums {classes : List Class} {owned : String × EnumType} :
    owned ∈ ownedEnums classes ↔
      ∃ c ∈ classes, c.name = owned.1 ∧ owned.2 ∈ c.enums := by
  simp only [ownedEnums, List.mem_flatMap, List.mem_map]
  constructor
  · rintro ⟨c, inClasses, e, inEnums, rfl⟩
    exact ⟨c, inClasses, rfl, inEnums⟩
  · rintro ⟨c, inClasses, name, inEnums⟩
    exact ⟨c, inClasses, owned.2, inEnums, by rw [name]⟩

theorem map_declaredEnums (classes : List Class) :
    (declaredEnums classes).map (fun pair => (pair.1.name, pair.2)) = ownedEnums classes := by
  simp [declaredEnums, ownedEnums, List.map_flatMap, Function.comp_def]

/-- No constant is declared twice. -/
def DistinctConstants (classes : List Class) : Prop :=
  ((ownedEnums classes).flatMap constantNames).Nodup

/-- The entries of the enums of some classes, each in its place. -/
def enumIndex (classes : List Class) : EnumIndex :=
  Table.ofEntries ((ownedEnums classes).map entryOf)

theorem indexes_enumIndex {classes : List Class} (distinct : DistinctConstants classes) :
    Indexes (enumIndex classes) (ownedEnums classes) := by
  constructor
  · intro entry member
    rcases List.mem_map.mp (Table.mem_ofEntries.mp member).mem with ⟨owned, inEnums, equal⟩
    exact ⟨owned, inEnums, equal.symm⟩
  · intro owned member
    have declared : (entryOf owned).1 ∈ ((ownedEnums classes).map entryOf).map Prod.fst :=
      List.mem_map_of_mem (List.mem_map_of_mem member)
    rwa [enumIndex, Table.mem_keys_ofEntries]
  · exact distinct

/-! ## Entering the constants -/

/-- The names seen after some constants. -/
theorem addConstants_ok
    {qualified : String} {seen : List (String × String)} {constants : List EnumConstant}
    (distinct :
      ((constants.map EnumConstant.name).reverse ++ seen.map Prod.fst).Nodup) :
    ∃ after, addConstants qualified seen constants = .ok after ∧
      after.map Prod.fst = (constants.map EnumConstant.name).reverse ++ seen.map Prod.fst := by
  induction constants generalizing seen with
  | nil => exact ⟨seen, rfl, rfl⟩
  | cons constant rest ih =>
      rw [List.map_cons, List.reverse_cons, List.append_assoc] at distinct ⊢
      have new := (List.nodup_append.mp distinct).2.1
      have absent : seen.lookup constant.name = none := by
        rw [List.lookup_eq_none_iff]
        intro entry member
        have unseen : constant.name ∉ seen.map Prod.fst := (List.nodup_cons.mp new).1
        have different : constant.name ≠ entry.1 :=
          fun same => unseen (same ▸ List.mem_map_of_mem member)
        simpa using different
      have extended : ((rest.map EnumConstant.name).reverse ++
          ((constant.name, qualified) :: seen).map Prod.fst).Nodup := distinct
      rcases ih extended with ⟨after, added, keys⟩
      refine ⟨after, ?_, keys⟩
      rw [addConstants, absent]
      exact added

theorem distinct_of_addConstants
    {qualified : String} {seen after : List (String × String)}
    {constants : List EnumConstant}
    (fresh : (seen.map Prod.fst).Nodup)
    (added : addConstants qualified seen constants = .ok after) :
    ((constants.map EnumConstant.name).reverse ++ seen.map Prod.fst).Nodup := by
  induction constants generalizing seen with
  | nil => simpa using fresh
  | cons constant rest ih =>
      rw [addConstants] at added
      split at added
      · cases added
      · rename_i absent
        have new : constant.name ∉ seen.map Prod.fst := by
          intro member
          rcases List.mem_map.mp member with ⟨entry, inSeen, name⟩
          have differs := List.lookup_eq_none_iff.mp absent entry inSeen
          simp [name] at differs
        have extended : (((constant.name, qualified) :: seen).map Prod.fst).Nodup :=
          List.nodup_cons.mpr ⟨new, fresh⟩
        simpa using ih extended added

/-! ## Entering the enums -/

/-- Enums without common constants are entered one after another. -/
theorem indexEnums_ok
    {seen : List (String × String)} {index : EnumIndex} {pairs : List (Class × EnumType)}
    (distinct :
      ((pairs.flatMap fun pair => constantNames (pair.1.name, pair.2)).reverse ++
        seen.map Prod.fst).Nodup) :
    indexEnums seen index pairs =
      .ok ((pairs.map fun pair => entryOf (pair.1.name, pair.2)).foldl
        (fun table entry => Table.enter entry.1 entry.2 table) index) := by
  induction pairs generalizing seen index with
  | nil => rfl
  | cons pair rest ih =>
      rcases pair with ⟨owner, e⟩
      rw [List.flatMap_cons, List.reverse_append, List.append_assoc] at distinct
      rcases addConstants_ok (List.nodup_append.mp distinct).2.1 with ⟨after, added, keys⟩
      rw [indexEnums, added]
      dsimp only
      rw [ih (by rw [keys]; exact distinct), Table.insertEnum_eq_enter]
      rfl

theorem distinct_of_indexEnums
    {seen : List (String × String)} {index result : EnumIndex}
    {pairs : List (Class × EnumType)}
    (fresh : (seen.map Prod.fst).Nodup)
    (indexed : indexEnums seen index pairs = .ok result) :
    ((pairs.flatMap fun pair => constantNames (pair.1.name, pair.2)).reverse ++
      seen.map Prod.fst).Nodup := by
  induction pairs generalizing seen index with
  | nil => simpa using fresh
  | cons pair rest ih =>
      rcases pair with ⟨owner, e⟩
      rw [indexEnums] at indexed
      split at indexed
      · cases indexed
      · rename_i after added
        have distinct := distinct_of_addConstants fresh added
        rcases addConstants_ok distinct with ⟨same, addedSame, keys⟩
        cases added.symm.trans addedSame
        have later := ih (by rw [keys]; exact distinct) indexed
        rw [keys] at later
        simpa [constantNames, List.append_assoc] using later

/-- The enums of some classes can be indexed when no constant is declared twice. -/
theorem indexEnums_eq_ok_iff {classes : List Class} {index : EnumIndex} :
    indexEnums [] [] (declaredEnums classes) = .ok index ↔
      DistinctConstants classes ∧ index = enumIndex classes := by
  have constants : ((declaredEnums classes).flatMap fun pair =>
      constantNames (pair.1.name, pair.2)) = (ownedEnums classes).flatMap constantNames := by
    rw [← map_declaredEnums, List.flatMap_map]
  have entries : (declaredEnums classes).map (fun pair => entryOf (pair.1.name, pair.2)) =
      (ownedEnums classes).map entryOf := by
    rw [← map_declaredEnums, List.map_map]
    rfl
  have made (distinct : DistinctConstants classes) :
      indexEnums [] [] (declaredEnums classes) = .ok (enumIndex classes) := by
    rw [indexEnums_ok, entries]
    · rfl
    · rw [constants, List.map_nil, List.append_nil]
      exact List.nodup_reverse.mpr distinct
  constructor
  · intro indexed
    have distinct : DistinctConstants classes := by
      have reversed := distinct_of_indexEnums (by simp) indexed
      rw [constants, List.map_nil, List.append_nil] at reversed
      exact List.nodup_reverse.mp reversed
    rw [made distinct] at indexed
    exact ⟨distinct, (Except.ok.inj indexed).symm⟩
  · rintro ⟨distinct, rfl⟩
    exact made distinct

/-! ## Looking for a name -/

/-- A name that occurs in a text as a word has no characters of its own. -/
theorem mem_of_occursAsWord {name text : List Char} {previous : Option Char} {skipped : Nat}
    (occurs : occursAsWord name previous skipped text = true) {c : Char} (member : c ∈ name) :
    c ∈ text := by
  induction text generalizing previous skipped with
  | nil => simp [occursAsWord] at occurs
  | cons first rest ih =>
      cases skipped with
      | succ n =>
          rw [occursAsWord] at occurs
          exact List.mem_cons_of_mem _ (ih occurs)
      | zero =>
          rw [occursAsWord] at occurs
          split at occurs
          · exact List.mem_cons_of_mem _ (ih occurs)
          · rename_i after found
            have split := List.append_eq_of_isPrefixOf?_eq_some found
            rw [← split]
            exact List.mem_append_left _ member

/-- A type whose bare form has the qualified name of an enum as a word of its own. -/
def Mentions (type qualified : String) : Prop :=
  occursAsWord qualified.toList none 0 (Typing.bareType type).toList = true

instance (type qualified : String) : Decidable (Mentions type qualified) :=
  inferInstanceAs (Decidable (_ = true))

/-- A qualified name is mentioned only by types with a colon. -/
theorem colon_of_mentions {type owner name : String}
    (mentions : Mentions type (qualifiedName owner name)) :
    ':' ∈ (Typing.bareType type).toList := by
  apply mem_of_occursAsWord mentions
  simp [qualifiedName, String.toList_append]

theorem enumOf?_fst (index : EnumIndex) (symbol type : String) :
    (enumOf? index symbol type).1 =
      (index.find? fun entry => decide (Mentions type entry.1)).map Prod.snd := by
  have same : (fun entry : String × TypeClass => decide (Mentions type entry.1)) =
      fun entry => occursAsWord entry.1.toList none 0 (Typing.bareType type).toList := by
    funext entry
    exact Bool.decide_eq_true
  rw [enumOf?, same]
  dsimp only
  split
  · rename_i found
    rw [found]
    rfl
  · rename_i missing
    rw [missing]
    rfl

/-- The enum found for a type is one of the index that the type mentions. -/
theorem enumOf?_some {index : EnumIndex} {symbol type : String} {typeClass : TypeClass}
    (found : (enumOf? index symbol type).1 = some typeClass) :
    ∃ entry ∈ index, Mentions type entry.1 ∧ entry.2 = typeClass := by
  rw [enumOf?_fst, Option.map_eq_some_iff] at found
  rcases found with ⟨entry, search, equal⟩
  refine ⟨entry, List.mem_of_find?_eq_some search, ?_, equal⟩
  simpa using List.find?_some search

theorem enumOf?_none {index : EnumIndex} {symbol type : String} :
    (enumOf? index symbol type).1 = none ↔ ∀ entry ∈ index, ¬ Mentions type entry.1 := by
  rw [enumOf?_fst, Option.map_eq_none_iff, List.find?_eq_none]
  simp

end HeaderBindings.Resolve
