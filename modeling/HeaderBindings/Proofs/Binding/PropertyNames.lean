import HeaderBindings.Proofs.Binding.PropertyAccessors

/-!
# The names of properties

Every setter with a getter makes a property of its own.  So a property is
declared once exactly if it has one setter: an overload, or a setter beside one
that returns its receiver, declares it again.  The names in the managed wrapper
drop underscores, which merges more of them.
-/

namespace HeaderBindings

namespace Resolve

/-- A setter of a class, for a name that the class also has a getter for. -/
structure Sets (c : Class) (base : String) (f : Function) : Prop where
  writes : IsSetter base f
  readable : ∃ getter ∈ c.functions, IsGetter base getter

variable {c : Class} {f : Function} {base : String}

/-- A setter has the plain name or the one with the suffix. -/
theorem IsSetter.name_cases (isSetter : IsSetter base f) :
    f.name = "set_" ++ base ∨ f.name = "set_" ++ base ++ "_selfreturn" := by
  have name := isSetter.name
  rw [Function.publicName] at name
  cases dropped : Text.dropTail? f.name "_selfreturn" with
  | none =>
      rw [dropped] at name
      exact .inl name
  | some plain =>
      rw [dropped, Option.getD_some] at name
      rw [← name]
      exact .inr (Text.dropTail?_eq_some_iff.mp dropped)

theorem propertyOf?_name (inClass : f ∈ c.functions) (accessor : isAccessor f = true) :
    (∃ p, propertyOf? (c.functions.filter isAccessor) f = some p ∧ p.name = base) ↔
      Sets c base f := by
  simp only [propertyOf?_eq_some_iff inClass accessor]
  constructor
  · rintro ⟨p, ⟨getter, made⟩, rfl⟩
    exact ⟨made.writes, getter, getter?_eq_some made.found⟩
  · rintro ⟨writes, readable⟩
    rcases Option.isSome_iff_exists.mp (getter?_isSome_iff.mpr readable) with ⟨getter, found⟩
    exact ⟨⟨base, getter.name, f.name, getter.result⟩,
      ⟨getter, inClass, writes, found, rfl, rfl, rfl⟩, rfl⟩

/-- Whatever is made of their names, properties differ in it exactly if it tells the names of any
two setters apart. -/
theorem properties_nodup_iff {α : Type} (c : Class) (view : String → α) :
    ((properties c).map fun p => view p.name).Nodup ↔
      c.functions.Pairwise fun first second =>
        ∀ base other, Sets c base first → Sets c other second → view base ≠ view other := by
  rw [List.Nodup, List.pairwise_map, properties, List.pairwise_filterMap, List.pairwise_filter]
  refine List.Pairwise.iff_of_mem fun {first second} inFirst inSecond => ?_
  constructor
  · intro apart base other isFirst isSecond
    rcases (propertyOf?_name inFirst isFirst.writes.accessor).mpr isFirst with ⟨p, made, rfl⟩
    rcases (propertyOf?_name inSecond isSecond.writes.accessor).mpr isSecond with ⟨q, alsoMade, rfl⟩
    exact apart isFirst.writes.accessor isSecond.writes.accessor p made q alsoMade
  · intro apart accessor alsoAccessor p made q alsoMade
    exact apart p.name q.name ((propertyOf?_name inFirst accessor).mp ⟨p, made, rfl⟩)
      ((propertyOf?_name inSecond alsoAccessor).mp ⟨q, alsoMade, rfl⟩)

end Resolve

/-- The names of the properties of an interface, and of those that its managed wrappers declare. -/
structure Api.PropertyNames (api : Api) : Prop where
  setters : ∀ c ∈ api.classes, ∀ p ∈ c.properties,
    p.setter = "set_" ++ p.name ∨ p.setter = "set_" ++ p.name ++ "_selfreturn"
  interface : ∀ c ∈ api.classes,
    (c.properties.map Property.name).Nodup ↔
      c.functions.Pairwise fun first second =>
        ∀ base, Resolve.Sets c base first → ¬ Resolve.Sets c base second
  managed : ∀ apiName classes, Managed.classesOf api.withLifecycle apiName = .ok classes →
    List.Forall₂ (fun c definition =>
      (definition.properties.map Managed.PropertyDefinition.name).Nodup ↔
        c.functions.Pairwise fun first second => ∀ base other,
          Resolve.Sets c base first → Resolve.Sets c other second →
            Text.pascal base ≠ Text.pascal other)
      api.classes classes

/-- Whatever the headers are, the properties of an accepted class have different names exactly if no
two functions set the same one, and the managed wrapper declares them once exactly if the names of
any two of them differ in the form that it gives them. -/
theorem extract_propertyNames
    (options : Header.Options) (sources : List HeaderSource) (api : Api)
    (accepted : (extract options sources).result = .ok api) : api.PropertyNames := by
  constructor
  case setters =>
    intro c inApi p member
    rw [accepted_properties accepted inApi] at member
    rcases Resolve.mem_properties_iff.mp member with ⟨_, setter, made⟩
    rw [made.setterName]
    exact made.writes.name_cases
  case interface =>
    intro c inApi
    rw [accepted_properties accepted inApi]
    refine (Resolve.properties_nodup_iff c id).trans (List.Pairwise.iff fun first second => ?_)
    exact ⟨fun apart base isFirst isSecond => apart base base isFirst isSecond rfl,
      fun apart base _ isFirst isSecond same => by
        cases same
        exact apart base isFirst isSecond⟩
  case managed =>
    intro apiName classes written
    rcases Managed.written_each written with ⟨table, related⟩
    refine related.imp fun c definition ⟨inApi, classWritten⟩ => ?_
    have names : definition.properties.map Managed.PropertyDefinition.name =
        (Resolve.properties c).map fun p => Text.pascal p.name := by
      rw [Managed.ofClass_properties classWritten, List.map_map,
        ← accepted_properties accepted inApi]
      rfl
    rw [names]
    exact Resolve.properties_nodup_iff c Text.pascal

/-- Two setters of one property. -/
def twoSettersHeader : HeaderSource :=
  { name := "a.h"
    text :=
      "NAPI_CLASS_REF class A \x7b\nNAPI int get_x();\nNAPI void set_x(int v);\n" ++
        "NAPI void set_x_selfreturn(float v);\n\x7d;" }

def twoSettersApi : Api :=
  { classes := [
      { name := "A"
        kind := .refcounted
        functions := [
          { name := "get_x"
            symbol := "A_get_x"
            args := [.receiver]
            result := plainResult "int" },
          { name := "set_x"
            symbol := "A_set_x"
            args := [.receiver, plainValue "int" "v"]
            result := .void },
          { name := "set_x_selfreturn"
            symbol := "A_set_x_selfreturn"
            args := [.receiver, plainValue "float" "v"]
            result := .void
            returnsSelf := true }]
        properties := [
          ⟨"x", "get_x", "set_x", plainResult "int"⟩,
          ⟨"x", "get_x", "set_x_selfreturn", plainResult "int"⟩] }] }

/-- Two properties whose names differ in an underscore alone. -/
def underscoreHeader : HeaderSource :=
  { name := "a.h"
    text :=
      "NAPI_CLASS_SINGLETON class A \x7b\nNAPI int get_x_y();\nNAPI void set_x_y(int v);\n" ++
        "NAPI float is_xY();\nNAPI void set_xY(float v);\n\x7d;" }

def underscoreApi : Api :=
  { classes := [
      { name := "A"
        kind := .singleton
        functions := [
          { name := "get_x_y", symbol := "A_get_x_y", args := [], result := plainResult "int" },
          { name := "set_x_y"
            symbol := "A_set_x_y"
            args := [plainValue "int" "v"]
            result := .void },
          { name := "is_xY", symbol := "A_is_xY", args := [], result := plainResult "float" },
          { name := "set_xY"
            symbol := "A_set_xY"
            args := [plainValue "float" "v"]
            result := .void }]
        properties := [
          ⟨"x_y", "get_x_y", "set_x_y", plainResult "int"⟩,
          ⟨"xY", "is_xY", "set_xY", plainResult "float"⟩] }] }

theorem extract_twoSettersHeader : (extract {} [twoSettersHeader]).result = .ok twoSettersApi := by
  decide +kernel

theorem extract_underscoreHeader : (extract {} [underscoreHeader]).result = .ok underscoreApi := by
  decide +kernel

theorem twoSettersApi_propertyNames :
    (extract {} [twoSettersHeader]).result = .ok twoSettersApi ∧ twoSettersApi.PropertyNames :=
  ⟨extract_twoSettersHeader,
    extract_propertyNames {} [twoSettersHeader] twoSettersApi extract_twoSettersHeader⟩

/-- The properties of a class do not always have different names, and where they have, the managed
wrapper still does not always declare them once. -/
theorem properties_not_always_distinct :
    (¬ ∀ (options : Header.Options) (sources : List HeaderSource) (api : Api),
      (extract options sources).result = .ok api →
      ∀ c ∈ api.classes, (c.properties.map Property.name).Nodup) ∧
    ¬ ∀ (options : Header.Options) (sources : List HeaderSource) (api : Api),
      (extract options sources).result = .ok api →
      (∀ c ∈ api.classes, (c.properties.map Property.name).Nodup) →
      ∀ apiName classes, Managed.classesOf api.withLifecycle apiName = .ok classes →
      ∀ definition ∈ classes,
        (definition.properties.map Managed.PropertyDefinition.name).Nodup := by
  constructor
  · intro always
    have distinct := always {} [twoSettersHeader] twoSettersApi extract_twoSettersHeader _
      (List.mem_singleton_self _)
    exact absurd distinct (by decide)
  · intro always
    have names : (Managed.classesOf underscoreApi.withLifecycle "lib").map
        (fun classes => classes.map fun definition =>
          definition.properties.map Managed.PropertyDefinition.name) = .ok [["XY", "XY"]] := by
      decide +kernel
    rcases Outcome.map_eq_ok_iff.mp names with ⟨classes, written, declared⟩
    have distinct := always {} [underscoreHeader] underscoreApi extract_underscoreHeader (by decide)
      "lib" classes written
    rw [← List.forall_mem_map, declared] at distinct
    exact absurd distinct (by decide)

end HeaderBindings
