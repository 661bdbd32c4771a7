import HeaderBindings.Proofs.Interface.WellFormed

/-!
# Pairs of accessors

A property is made of a setter and of the first getter for its name.  Both are
told by their public names and their value arguments; a setter that returns its
receiver counts by its name without the suffix.
-/

namespace HeaderBindings

namespace Resolve

/-- A function that writes the property of a name. -/
structure IsSetter (base : String) (f : Function) : Prop where
  accessor : isAccessor f = true
  name : f.publicName = "set_" ++ base
  oneValue : f.valueArgs.length = 1

/-- A function that reads the property of a name. -/
structure IsGetter (base : String) (f : Function) : Prop where
  accessor : isAccessor f = true
  name : f.name = "get_" ++ base ∨ f.name = "is_" ++ base
  noValues : f.valueArgs = []
  result : f.result.type ≠ "void"

/-- The getter of the property of a name in a class: the first one in it. -/
def getter? (c : Class) (base : String) : Option Function :=
  (c.functions.filter isAccessor).find? (isGetterOf base)

/-- A property of a class and the functions that it is made of. -/
structure MadeOf (c : Class) (p : Property) (getter setter : Function) : Prop where
  hasSetter : setter ∈ c.functions
  writes : IsSetter p.name setter
  found : getter? c p.name = some getter
  getterName : p.getter = getter.name
  setterName : p.setter = setter.name
  valueType : p.valueType = getter.result

variable {c : Class} {f getter setter : Function} {base : String} {p : Property}

theorem isGetter_iff : IsGetter base f ↔ isAccessor f = true ∧ isGetterOf base f = true := by
  constructor
  · rintro ⟨accessor, name, noValues, result⟩
    refine ⟨accessor, ?_⟩
    simpa [isGetterOf, Function.returnsVoid, noValues, result] using name
  · rintro ⟨accessor, isGetter⟩
    simp only [isGetterOf, Function.returnsVoid, Bool.and_eq_true, Bool.or_eq_true, beq_iff_eq,
      Bool.not_eq_true', beq_eq_false_iff_ne, List.length_eq_zero_iff] at isGetter
    exact ⟨accessor, isGetter.1.1, isGetter.1.2, isGetter.2⟩

theorem getter?_isSome_iff :
    (getter? c base).isSome = true ↔ ∃ f ∈ c.functions, IsGetter base f := by
  rw [getter?, List.find?_isSome]
  simp only [List.mem_filter, and_assoc, isGetter_iff]

theorem getter?_eq_some (found : getter? c base = some f) : f ∈ c.functions ∧ IsGetter base f := by
  rcases List.mem_filter.mp (List.mem_of_find?_eq_some found) with ⟨member, accessor⟩
  exact ⟨member, isGetter_iff.mpr ⟨accessor, List.find?_some found⟩⟩

theorem propertyOf?_eq_some_iff (inClass : setter ∈ c.functions)
    (accessor : isAccessor setter = true) :
    propertyOf? (c.functions.filter isAccessor) setter = some p ↔
      ∃ getter, MadeOf c p getter setter := by
  rw [propertyOf?]
  cases named : Text.dropHead? setter.publicName "set_" with
  | none =>
      constructor
      · intro impossible
        cases impossible
      · rintro ⟨getter, made⟩
        rw [Text.dropHead?_eq_some_iff.mpr made.writes.name] at named
        cases named
  | some base =>
      have isName := Text.dropHead?_eq_some_iff.mp named
      constructor
      · intro made
        dsimp only at made
        split at made
        · rename_i oneValue
          rcases Option.map_eq_some_iff.mp made with ⟨getter, found, rfl⟩
          exact ⟨getter, inClass, ⟨accessor, isName, beq_iff_eq.mp oneValue⟩, found, rfl, rfl, rfl⟩
        · cases made
      · rintro ⟨getter, made⟩
        have same : base = p.name :=
          (String.append_right_inj _).mp (isName.symm.trans made.writes.name)
        dsimp only
        rw [if_pos (beq_iff_eq.mpr made.writes.oneValue), same]
        refine Option.map_eq_some_iff.mpr ⟨getter, made.found, ?_⟩
        rw [← made.getterName, ← made.setterName, ← made.valueType]

/-- The properties of a class are the pairs of a setter and the first getter for its name. -/
theorem mem_properties_iff : p ∈ properties c ↔ ∃ getter setter, MadeOf c p getter setter := by
  rw [properties, List.mem_filterMap]
  constructor
  · rintro ⟨setter, member, made⟩
    rcases List.mem_filter.mp member with ⟨inClass, accessor⟩
    rcases (propertyOf?_eq_some_iff inClass accessor).mp made with ⟨getter, isMade⟩
    exact ⟨getter, setter, isMade⟩
  · rintro ⟨getter, setter, made⟩
    exact ⟨setter, List.mem_filter.mpr ⟨made.hasSetter, made.writes.accessor⟩,
      (propertyOf?_eq_some_iff made.hasSetter made.writes.accessor).mpr ⟨getter, made⟩⟩

end Resolve

/-- A class of an accepted interface has the properties that its functions make. -/
theorem accepted_properties {options : Header.Options} {sources : List HeaderSource} {api : Api}
    (accepted : (extract options sources).result = .ok api) {c : Class} (inApi : c ∈ api.classes) :
    c.properties = Resolve.properties c := by
  rcases extract_ok accepted with ⟨index, _, related⟩
  rcases Related.exists_of_mem_right related inApi with ⟨before, _, pair⟩
  exact pair.properties

end HeaderBindings
