import HeaderBindings.Json.Value
import HeaderBindings.Resolve.Enums
import Mathlib.Data.List.Induction
import Mathlib.Data.List.Sort

/-!
# Tables with one item of each key

A table is filled by putting in one item after another; an item of a key that
the table has already takes the place of the old one.  So a filled table holds
the last item of each key.  When groups of items have no keys in common, the
order of the groups does not matter.

The fields of a JSON object and the index of the enums are tables in ascending
order of their names, and such a table is determined by its members.
-/

namespace HeaderBindings.Table

/-! ## The last item of each key -/

section Last

variable {α κ : Type} {key : α → κ} {items left right : List α} {x y : α}

/-- An item of a list after which no item has its key. -/
def LastOf (key : α → κ) (items : List α) (x : α) : Prop :=
  ∃ before after, items = before ++ x :: after ∧ ∀ y ∈ after, key y ≠ key x

theorem LastOf.mem (last : LastOf key items x) : x ∈ items := by
  rcases last with ⟨before, after, rfl, _⟩
  simp

theorem not_lastOf_nil : ¬ LastOf key [] x :=
  fun last => absurd last.mem (by simp)

theorem lastOf_append :
    LastOf key (left ++ right) x ↔
      LastOf key right x ∨ (LastOf key left x ∧ ∀ y ∈ right, key y ≠ key x) := by
  constructor
  · rintro ⟨before, after, split, last⟩
    rcases List.append_eq_append_iff.mp split with ⟨middle, rfl, rest⟩ | ⟨middle, rfl, rest⟩
    · exact Or.inl ⟨middle, after, rest, last⟩
    · rcases List.cons_eq_append_iff.mp rest with ⟨rfl, rfl⟩ | ⟨tail, rfl, rfl⟩
      · exact Or.inl ⟨[], after, rfl, last⟩
      · refine Or.inr ⟨⟨before, tail, rfl, ?_⟩, ?_⟩
        · exact fun y member => last y (List.mem_append_left _ member)
        · exact fun y member => last y (List.mem_append_right _ member)
  · rintro (⟨before, after, rfl, last⟩ | ⟨⟨before, after, rfl, last⟩, free⟩)
    · exact ⟨left ++ before, after, by simp, last⟩
    · refine ⟨before, after ++ right, by simp, ?_⟩
      intro y member
      rcases List.mem_append.mp member with inside | beyond
      · exact last y inside
      · exact free y beyond

theorem lastOf_concat :
    LastOf key (items ++ [y]) x ↔ x = y ∨ (LastOf key items x ∧ key y ≠ key x) := by
  have single : LastOf key [y] x ↔ x = y := by
    constructor
    · intro last
      exact List.mem_singleton.mp last.mem
    · rintro rfl
      exact ⟨[], [], rfl, by simp⟩
  rw [lastOf_append, single]
  simp

theorem lastOf_map {β : Type} {key : β → κ} {f : α → β} {y : β} :
    LastOf key (items.map f) y ↔ ∃ x, y = f x ∧ LastOf (fun x => key (f x)) items x := by
  constructor
  · rintro ⟨before, after, split, free⟩
    rcases List.map_eq_append_iff.mp split with ⟨before, tail, rfl, rfl, tailSplit⟩
    rcases List.map_eq_cons_iff.mp tailSplit with ⟨x, after, rfl, rfl, rfl⟩
    exact ⟨x, rfl, before, after, rfl, fun z member => free (f z) (List.mem_map_of_mem member)⟩
  · rintro ⟨x, rfl, before, after, rfl, free⟩
    refine ⟨before.map f, after.map f, by simp, fun y member => ?_⟩
    rcases List.mem_map.mp member with ⟨z, inAfter, rfl⟩
    exact free z inAfter

/-- Every key of a list has a last item. -/
theorem exists_lastOf (member : x ∈ items) : ∃ y, LastOf key items y ∧ key y = key x := by
  induction items using List.reverseRecOn with
  | nil => cases member
  | append_singleton items item ih =>
      by_cases same : key item = key x
      · exact ⟨item, lastOf_concat.mpr (Or.inl rfl), same⟩
      · rcases List.mem_append.mp member with earlier | final
        · rcases ih earlier with ⟨y, last, equal⟩
          refine ⟨y, lastOf_concat.mpr (Or.inr ⟨last, ?_⟩), equal⟩
          rw [equal]
          exact same
        · exact absurd (congrArg key (List.mem_singleton.mp final)).symm same

/-- No key of a list has two last items. -/
theorem LastOf.eq_of_key_eq (last : LastOf key items x) (alsoLast : LastOf key items y)
    (same : key x = key y) : x = y := by
  induction items using List.reverseRecOn with
  | nil => exact absurd last not_lastOf_nil
  | append_singleton items item ih =>
      rcases lastOf_concat.mp last with rfl | ⟨earlier, free⟩
      · rcases lastOf_concat.mp alsoLast with rfl | ⟨_, alsoFree⟩
        · rfl
        · exact absurd same alsoFree
      · rcases lastOf_concat.mp alsoLast with rfl | ⟨alsoEarlier, _⟩
        · exact absurd same.symm free
        · exact ih earlier alsoEarlier

/-- A table that is filled item by item holds the last item of each key. -/
theorem mem_foldl_iff
    {put : List α → α → List α} {Kept : List α → Prop}
    (empty : Kept [])
    (keeps : ∀ table item, Kept table → Kept (put table item))
    (mem : ∀ table item x, Kept table →
      (x ∈ put table item ↔ x = item ∨ (x ∈ table ∧ key item ≠ key x))) :
    x ∈ items.foldl put [] ↔ LastOf key items x := by
  have filled : Kept (items.foldl put []) ∧
      ∀ x, x ∈ items.foldl put [] ↔ LastOf key items x := by
    induction items using List.reverseRecOn with
    | nil => exact ⟨empty, fun x => by simp [not_lastOf_nil]⟩
    | append_singleton items item ih =>
        rcases ih with ⟨kept, members⟩
        rw [List.foldl_concat]
        refine ⟨keeps _ item kept, fun x => ?_⟩
        rw [mem _ item x kept, members, lastOf_concat]
  exact filled.2 x

/-- Among groups of items without common keys, an item is the last of its key in its group. -/
theorem lastOf_flatMap {β : Type} {groups : List β} {group : β → List α}
    (apart : ∀ g ∈ groups, ∀ h ∈ groups, g ≠ h → ∀ x ∈ group g, ∀ y ∈ group h, key x ≠ key y) :
    LastOf key (groups.flatMap group) x ↔ ∃ g ∈ groups, LastOf key (group g) x := by
  induction groups with
  | nil => simp [not_lastOf_nil]
  | cons first rest ih =>
      have later := ih fun g inRest h alsoInRest =>
        apart g (List.mem_cons_of_mem _ inRest) h (List.mem_cons_of_mem _ alsoInRest)
      rw [List.flatMap_cons, lastOf_append, later]
      constructor
      · rintro (⟨g, inRest, last⟩ | ⟨last, _⟩)
        · exact ⟨g, List.mem_cons_of_mem _ inRest, last⟩
        · exact ⟨first, List.mem_cons_self, last⟩
      · rintro ⟨g, member, last⟩
        rcases List.mem_cons.mp member with rfl | inRest
        · by_cases again : g ∈ rest
          · exact Or.inl ⟨g, again, last⟩
          · refine Or.inr ⟨last, fun y inLater same => ?_⟩
            rcases List.mem_flatMap.mp inLater with ⟨h, inRest, inGroup⟩
            have different : h ≠ g := fun equal => again (equal ▸ inRest)
            exact apart h (List.mem_cons_of_mem _ inRest) g List.mem_cons_self different
              y inGroup x last.mem same
        · exact Or.inl ⟨g, inRest, last⟩

end Last

/-! ## Tables in ascending order -/

section Ascending

variable {α : Type} {name other : String} {value : α} {table : List (String × α)}
variable {entry : String × α}

/-- A table whose names ascend. -/
def Ascending (table : List (String × α)) : Prop :=
  table.Pairwise fun first second => first.1 < second.1

/-- Puts a value in the place of its name; the last value of a name counts. -/
def enter (name : String) (value : α) : List (String × α) → List (String × α)
  | [] => [(name, value)]
  | entry :: rest =>
    if name < entry.1 then (name, value) :: entry :: rest
    else if name = entry.1 then (name, value) :: rest
    else entry :: enter name value rest

theorem lt_of_not_lt_of_ne {left right : String}
    (notLess : ¬ left < right) (different : left ≠ right) : right < left := by
  by_contra notGreater
  exact different (String.le_antisymm (String.not_lt.mp notGreater) (String.not_lt.mp notLess))

theorem ne_of_lt {left right : String} (less : left < right) : left ≠ right :=
  fun equal => String.lt_irrefl _ (equal ▸ less)

theorem mem_enter (ascending : Ascending table) :
    entry ∈ enter name value table ↔
      entry = (name, value) ∨ (entry ∈ table ∧ name ≠ entry.1) := by
  induction table with
  | nil => simp [enter]
  | cons first rest ih =>
      rcases List.pairwise_cons.mp ascending with ⟨below, restAscending⟩
      rw [enter]
      split
      · rename_i less
        have absent : ∀ old ∈ first :: rest, name ≠ old.1 := by
          intro old member
          rcases List.mem_cons.mp member with rfl | later
          · exact ne_of_lt less
          · exact ne_of_lt (String.lt_trans less (below old later))
        rw [List.mem_cons]
        exact or_congr_right ⟨fun member => ⟨member, absent entry member⟩, And.left⟩
      · split
        · rename_i same
          have absent : ∀ old ∈ rest, name ≠ old.1 :=
            fun old later => same ▸ ne_of_lt (below old later)
          rw [List.mem_cons]
          apply or_congr_right
          constructor
          · exact fun later => ⟨List.mem_cons_of_mem _ later, absent entry later⟩
          · rintro ⟨member, different⟩
            rcases List.mem_cons.mp member with rfl | later
            · exact absurd same different
            · exact later
        · rename_i different
          rw [List.mem_cons, ih restAscending, List.mem_cons]
          constructor
          · rintro (rfl | new | ⟨later, other⟩)
            · exact Or.inr ⟨Or.inl rfl, different⟩
            · exact Or.inl new
            · exact Or.inr ⟨Or.inr later, other⟩
          · rintro (new | ⟨rfl | later, other⟩)
            · exact Or.inr (Or.inl new)
            · exact Or.inl rfl
            · exact Or.inr (Or.inr ⟨later, other⟩)

theorem ascending_enter (name : String) (value : α) (ascending : Ascending table) :
    Ascending (enter name value table) := by
  induction table with
  | nil => simp [enter, Ascending]
  | cons first rest ih =>
      rcases List.pairwise_cons.mp ascending with ⟨below, restAscending⟩
      rw [enter]
      split
      · rename_i less
        refine List.pairwise_cons.mpr ⟨?_, ascending⟩
        intro old member
        rcases List.mem_cons.mp member with rfl | later
        · exact less
        · exact String.lt_trans less (below old later)
      · rename_i notLess
        split
        · rename_i same
          exact List.pairwise_cons.mpr ⟨fun old later => same ▸ below old later, restAscending⟩
        · rename_i different
          refine List.pairwise_cons.mpr ⟨?_, ih restAscending⟩
          intro old member
          rcases (mem_enter restAscending).mp member with rfl | ⟨later, _⟩
          · exact lt_of_not_lt_of_ne notLess different
          · exact below old later

theorem lookup_enter (name other : String) (value : α) (table : List (String × α)) :
    (enter name value table).lookup other =
      if other = name then some value else table.lookup other := by
  induction table with
  | nil =>
      rw [enter, List.lookup_cons]
      split <;> simp_all
  | cons first rest ih =>
      rw [enter]
      split
      · rw [List.lookup_cons]
        split <;> simp_all
      · split
        · rename_i same
          rw [List.lookup_cons, List.lookup_cons, ← same]
          split <;> simp_all
        · rename_i different
          rw [List.lookup_cons, List.lookup_cons, ih]
          split
          · rename_i found
            have isFirst : other = first.1 := by simpa using found
            rw [if_neg (by rw [isFirst]; exact fun equal => different equal.symm)]
          · rfl

instance antisymm_lt_fst : Std.Antisymm fun first second : String × α => first.1 < second.1 where
  antisymm _ _ less greater := absurd greater (String.lt_asymm less)

instance irrefl_lt_fst : Std.Irrefl fun first second : String × α => first.1 < second.1 where
  irrefl entry := String.lt_irrefl entry.1

/-- Entries, put into an empty table in turn. -/
def ofEntries (entries : List (String × α)) : List (String × α) :=
  entries.foldl (fun table entry => enter entry.1 entry.2 table) []

theorem ascending_ofEntries (entries : List (String × α)) : Ascending (ofEntries entries) := by
  rw [ofEntries]
  generalize empty : ([] : List (String × α)) = table
  have ascending : Ascending table := by
    rw [← empty]
    exact List.Pairwise.nil
  clear empty
  induction entries generalizing table with
  | nil => exact ascending
  | cons entry rest ih => exact ih _ (ascending_enter entry.1 entry.2 ascending)

theorem mem_ofEntries {entries : List (String × α)} :
    entry ∈ ofEntries entries ↔ LastOf Prod.fst entries entry := by
  apply mem_foldl_iff (List.Pairwise.nil : Ascending [])
  · exact fun table item ascending => ascending_enter item.1 item.2 ascending
  · exact fun table item x ascending => mem_enter ascending

/-- A table has the names of its entries. -/
theorem mem_keys_ofEntries {entries : List (String × α)} :
    name ∈ (ofEntries entries).map Prod.fst ↔ name ∈ entries.map Prod.fst := by
  simp only [List.mem_map, mem_ofEntries]
  constructor
  · rintro ⟨entry, last, equal⟩
    exact ⟨entry, last.mem, equal⟩
  · rintro ⟨entry, member, equal⟩
    rcases exists_lastOf member with ⟨final, last, same⟩
    exact ⟨final, last, same.trans equal⟩

/-- A table in ascending order is determined by the last entry of each name. -/
theorem ofEntries_congr {entries others : List (String × α)}
    (same : ∀ entry, LastOf Prod.fst entries entry ↔ LastOf Prod.fst others entry) :
    ofEntries entries = ofEntries others := by
  apply List.Pairwise.eq_of_mem_iff (ascending_ofEntries entries) (ascending_ofEntries others)
  intro entry
  rw [mem_ofEntries, mem_ofEntries, same]

/-- The last entry of a name counts. -/
theorem lookup_ofEntries (entries : List (String × α)) (name : String) :
    (ofEntries entries).lookup name = entries.reverse.lookup name := by
  rw [ofEntries]
  induction entries using List.reverseRecOn with
  | nil => rfl
  | append_singleton entries entry ih =>
      rw [List.foldl_concat, lookup_enter, ih, List.reverse_concat, List.lookup_cons]
      by_cases same : name = entry.1
      · rw [if_pos same, beq_iff_eq.mpr same]
      · rw [if_neg same, beq_eq_false_iff_ne.mpr same]

/-- The entry that is found in a table is the least one of those that could be found. -/
theorem least_of_find? {p : String × α → Bool} (ascending : Ascending table)
    (found : table.find? p = some entry) :
    ∀ other ∈ table, p other = true → other = entry ∨ entry.1 < other.1 := by
  intro other member holds
  rcases List.find?_eq_some_iff_append.mp found with ⟨_, before, after, rfl, none⟩
  rcases List.mem_append.mp member with early | late
  · have fails := none other early
    rw [holds] at fails
    cases fails
  · rcases List.mem_cons.mp late with same | inAfter
    · exact Or.inl same
    · have above := (List.pairwise_append.mp ascending).2.1
      exact Or.inr ((List.pairwise_cons.mp above).1 other inAfter)

/-- Entries that ascend are a table as they stand. -/
theorem ofEntries_eq_self {entries : List (String × α)} (ascending : Ascending entries) :
    ofEntries entries = entries := by
  apply List.Pairwise.eq_of_mem_iff (ascending_ofEntries entries) ascending
  intro entry
  rw [mem_ofEntries]
  constructor
  · exact LastOf.mem
  · intro member
    rcases List.append_of_mem member with ⟨before, after, rfl⟩
    refine ⟨before, after, rfl, fun later inAfter => ?_⟩
    have less := (List.pairwise_append.mp ascending).2.1
    exact (ne_of_lt ((List.pairwise_cons.mp less).1 later inAfter)).symm

end Ascending

/-! ## Fields and enums -/

theorem insertField_eq_enter (name : String) (value : Json.Value)
    (fields : List (String × Json.Value)) :
    Json.insertField name value fields = enter name value fields := by
  induction fields with
  | nil => rfl
  | cons field rest ih => rw [Json.insertField, enter, ih]

theorem insertEnum_eq_enter (name : String) (typeClass : TypeClass) (index : Resolve.EnumIndex) :
    index.insert name typeClass = enter name typeClass index := by
  induction index with
  | nil => rfl
  | cons entry rest ih => rw [Resolve.EnumIndex.insert, enter, ih]

end HeaderBindings.Table
