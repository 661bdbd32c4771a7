import HeaderBindings.Proofs.Binding.WrapperParameters

/-!
# Names in the wrappers of functions with groups

A group is presented under a part of the names of its raw arguments, and a
managed method adds an ending to it for the local variable that holds the
container.  So names can meet although those of the raw arguments are distinct.
The main theorem says exactly when: a name that is cut or extended must not be
that of another group or of an argument outside the groups.
-/

namespace HeaderBindings

open HeaderBindings.Typing

namespace Function

variable {f : Function} {args : List Argument} {groups : List ArrayGroup}

/-! ## Presented names -/

/-- The names under which some arguments are presented. -/
def presentedNames (f : Function) (args : List Argument) : List String :=
  (args.filterMap f.wrapperParam?).map WrapperParam.name

/-- Whether an argument belongs to no group. -/
def isSingle (f : Function) (arg : Argument) : Bool :=
  (f.groupOf? arg.name).isNone

/-- The names of the arguments outside the groups. -/
def singleNames (f : Function) (args : List Argument) : List String :=
  (args.filter f.isSingle).map Argument.name

/-- What is presented are the arguments outside the groups and the groups. -/
theorem presentedNames_perm
    (regular : f.RegularGroups)
    (included : ∀ group ∈ groups, group ∈ f.arrayGroups)
    (grouped : Grouped args groups) :
    (f.presentedNames args).Perm (f.singleNames args ++ groups.map ArrayGroup.name) := by
  induction grouped with
  | nil => exact .nil
  | @single args groups arg free rest ih =>
      have alone : f.isSingle arg = true := by
        rw [isSingle, groupOf?_free regular free, Option.isNone_none]
      rw [presentedNames, List.filterMap_cons_some (wrapperParam?_free regular free), singleNames,
        List.filter_cons_of_pos alone]
      exact (ih included).cons arg.name
  | @data args groups pointer count base pointee pointerName _ countName _ rest ih =>
      rw [pointerName, countName] at included
      rcases List.forall_mem_cons.mp included with ⟨member, later⟩
      obtain ⟨⟨element, atPointer⟩, atCount⟩ :=
        wrapperParam?_data regular pointerName countName member
      obtain ⟨⟨first, ownsPointer⟩, second, ownsCount⟩ := groupOf?_data regular member
      have pointerOwned : ¬ f.isSingle pointer = true := by
        simp [isSingle, pointerName, ownsPointer]
      have countOwned : ¬ f.isSingle count = true := by
        simp [isSingle, countName, ownsCount]
      rw [presentedNames, List.filterMap_cons_some atPointer, List.filterMap_cons_none atCount,
        singleNames, List.filter_cons_of_neg pointerOwned, List.filter_cons_of_neg countOwned]
      exact ((ih later).cons base).trans List.perm_middle.symm
  | @text args groups arg base textName _ rest ih =>
      rw [textName] at included
      rcases List.forall_mem_cons.mp included with ⟨member, later⟩
      have owned : ¬ f.isSingle arg = true := by
        simp [isSingle, textName, groupOf?_text regular member]
      rw [presentedNames, List.filterMap_cons_some (wrapperParam?_text regular textName member),
        singleNames, List.filter_cons_of_neg owned]
      exact ((ih later).cons base).trans List.perm_middle.symm

/-- The names of the groups are distinct, and no argument outside the groups has one of them. -/
structure GroupsApart (f : Function) : Prop where
  groups : (f.arrayGroups.map ArrayGroup.name).Nodup
  singles : ∀ name ∈ f.singleNames f.valueArgs, name ∉ f.arrayGroups.map ArrayGroup.name

/-- The local variables for the groups have names that nothing is presented under. -/
structure VariablesApart (f : Function) : Prop where
  groups : ∀ group ∈ f.arrayGroups,
    (Managed.Pin.ofGroup group).name ∉ f.arrayGroups.map ArrayGroup.name
  singles : ∀ group ∈ f.arrayGroups,
    (Managed.Pin.ofGroup group).name ∉ f.singleNames f.valueArgs

/-- No group hides the receiver, neither by its name nor by its local variable. -/
def ReceiverApart (f : Function) : Prop :=
  ∀ group ∈ f.arrayGroups,
    group.name ≠ Argument.receiver.name ∧
      (Managed.Pin.ofGroup group).name ≠ Argument.receiver.name

theorem nodup_presentedNames_iff
    (grouped : Grouped f.valueArgs f.arrayGroups)
    (names : (f.valueArgs.map Argument.name).Nodup) :
    (f.presentedNames f.valueArgs).Nodup ↔ f.GroupsApart := by
  have singles : (f.singleNames f.valueArgs).Nodup :=
    (List.filter_sublist.map Argument.name).nodup names
  have perm := presentedNames_perm grouped.regular (fun _ member => member) grouped
  rw [perm.nodup_iff, List.nodup_append]
  constructor
  · rintro ⟨_, groups, apart⟩
    exact ⟨groups, fun name single member => apart name single name member rfl⟩
  · rintro ⟨groups, apart⟩
    refine ⟨singles, groups, ?_⟩
    rintro name single _ member rfl
    exact apart name single member

theorem mem_presentedNames_iff
    (grouped : Grouped f.valueArgs f.arrayGroups) {name : String} :
    name ∈ f.presentedNames f.valueArgs ↔
      name ∈ f.singleNames f.valueArgs ∨ name ∈ f.arrayGroups.map ArrayGroup.name := by
  have perm := presentedNames_perm grouped.regular (fun _ member => member) grouped
  rw [perm.mem_iff, List.mem_append]

end Function

namespace Managed

theorem name_injective : Function.Injective Pin.name := by
  have apart (first second : String) : first ++ "_handle" ≠ second ++ "_ptr" := by
    intro equal
    have last := Text.tail_getLast?_eq (by decide) (by decide) equal
    simp at last
  intro left right equal
  cases left with
  | array first =>
      cases right with
      | array second =>
          have names : first ++ "_handle" = second ++ "_handle" := equal
          rw [String.append_left_inj _ |>.mp names]
      | text second => exact absurd equal (apart first second)
  | text first =>
      cases right with
      | array second => exact absurd equal.symm (apart second first)
      | text second =>
          have names : first ++ "_ptr" = second ++ "_ptr" := equal
          rw [String.append_left_inj _ |>.mp names]

/-- The names that a method declares for its parameters and for its local variables. -/
def Method.declaredNames (m : Method) : List String :=
  m.params.map Param.name ++ m.pins.map Pin.name

end Managed

/-! ## All names of a function -/

namespace Function.Shape

variable {c : Class} {f : Function}

theorem ownNames_nodup (shape : f.Shape c) (names : (f.args.map Argument.name).Nodup) :
    ((f.ownArgs c).map Argument.name).Nodup := by
  rw [shape.args_eq, List.map_append] at names
  exact (List.nodup_append.mp names).2.1

theorem overloadNames_nodup_iff
    {o : Native.Overload}
    (shape : f.Shape c)
    (names : (f.args.map Argument.name).Nodup)
    (made : Native.Overload.ofFunction? c f = some o) :
    (o.forwarded.map fun forwarded => forwarded.param.name).Nodup ↔ f.GroupsApart := by
  have hasGroups := Native.overload_hasGroups made
  rcases shape.ownArgs_grouped with ⟨grouped, own⟩
  have ownNames := shape.ownNames_nodup names
  rw [← own hasGroups] at grouped ownNames
  rw [(Native.overload_shows made).1]
  exact Function.nodup_presentedNames_iff grouped ownNames

section Managed

variable {enums : Managed.EnumTable} {apiName : String} {m : Managed.Method}

theorem declaredNames_eq
    (shape : f.Shape c)
    (hasGroups : f.arrayGroups ≠ [])
    (made : Managed.Method.ofFunction enums apiName c f = .ok m) :
    m.declaredNames =
      f.presentedNames f.valueArgs ++
        (f.arrayGroups.map Managed.Pin.ofGroup).map Managed.Pin.name := by
  rw [Managed.Method.declaredNames, (Managed.ofFunction_shows made).1,
    Managed.ofFunction_pins shape made, shape.ownArgs_grouped.2 hasGroups]
  rfl

theorem declaredNames_nodup_iff
    (shape : f.Shape c)
    (hasGroups : f.arrayGroups ≠ [])
    (names : (f.args.map Argument.name).Nodup)
    (made : Managed.Method.ofFunction enums apiName c f = .ok m) :
    m.declaredNames.Nodup ↔ f.GroupsApart ∧ f.VariablesApart := by
  rcases shape.ownArgs_grouped with ⟨grouped, own⟩
  have ownNames := shape.ownNames_nodup names
  rw [← own hasGroups] at grouped ownNames
  have pinNames : ((f.arrayGroups.map Managed.Pin.ofGroup).map Managed.Pin.name).Nodup :=
    (Managed.pins_nodup shape names).map Managed.name_injective
  have met (name : String) :
      name ∈ f.presentedNames f.valueArgs ↔
        name ∈ f.singleNames f.valueArgs ∨ name ∈ f.arrayGroups.map ArrayGroup.name :=
    Function.mem_presentedNames_iff grouped
  rw [shape.declaredNames_eq hasGroups made, List.nodup_append,
    Function.nodup_presentedNames_iff grouped ownNames]
  refine and_congr_right fun _ => ?_
  constructor
  · rintro ⟨_, apart⟩
    have absent (group : ArrayGroup) (member : group ∈ f.arrayGroups) :
        (Managed.Pin.ofGroup group).name ∉ f.presentedNames f.valueArgs := fun presented =>
      apart _ presented _ (List.mem_map_of_mem (List.mem_map_of_mem member)) rfl
    constructor
    · exact fun group member other => absent group member ((met _).mpr (Or.inr other))
    · exact fun group member single => absent group member ((met _).mpr (Or.inl single))
  · intro apart
    refine ⟨pinNames, ?_⟩
    rintro name presented _ isVariable rfl
    rw [List.map_map] at isVariable
    rcases List.mem_map.mp isVariable with ⟨group, member, rfl⟩
    rcases (met _).mp presented with single | other
    · exact apart.singles group member single
    · exact apart.groups group member other

theorem receiver_mem_declaredNames_iff
    (shape : f.Shape c)
    (hasGroups : f.arrayGroups ≠ [])
    (names : (f.args.map Argument.name).Nodup)
    (made : Managed.Method.ofFunction enums apiName c f = .ok m)
    (isMember : m.passesInstance = true) :
    Argument.receiver.name ∉ m.declaredNames ↔ f.ReceiverApart := by
  rcases shape.ownArgs_grouped with ⟨grouped, own⟩
  have member : f.isMember c = true := (Managed.ofFunction_ok made).1.symm.trans isMember
  -- the receiver is an argument of its own, so no other one has its name
  have notSingle : Argument.receiver.name ∉ f.singleNames f.valueArgs := by
    rw [shape.args_eq, if_pos member, List.singleton_append, List.map_cons, List.nodup_cons] at names
    rw [own hasGroups]
    exact fun single => names.1 ((List.filter_sublist.map Argument.name).subset single)
  rw [← own hasGroups] at grouped
  rw [shape.declaredNames_eq hasGroups made, List.mem_append,
    Function.mem_presentedNames_iff grouped, Function.ReceiverApart]
  simp only [notSingle, false_or, List.mem_map, not_or, not_exists, not_and, forall_exists_index,
    and_imp, forall_apply_eq_imp_iff₂]
  exact forall₂_and.symm

end Managed

end Function.Shape

/-! ## All functions -/

/-- The names in the wrappers of every function with groups whose raw names are distinct. -/
structure Api.NamesKept (api : Api) : Prop where
  overload : ∀ c ∈ api.withLifecycle.classes, ∀ f ∈ c.functions,
    (f.args.map Argument.name).Nodup →
      ∀ o, Native.Overload.ofFunction? c f = some o →
        ((o.forwarded.map fun forwarded => forwarded.param.name).Nodup ↔ f.GroupsApart)
  managed : ∀ c ∈ api.withLifecycle.classes, ∀ f ∈ c.functions,
    f.arrayGroups ≠ [] → (f.args.map Argument.name).Nodup →
      ∀ enums apiName m, Managed.Method.ofFunction enums apiName c f = .ok m →
        (m.declaredNames.Nodup ↔ f.GroupsApart ∧ f.VariablesApart)
  /-- A method names the wrapped instance by its field. -/
  receiver : ∀ c ∈ api.withLifecycle.classes, ∀ f ∈ c.functions,
    f.arrayGroups ≠ [] → (f.args.map Argument.name).Nodup →
      ∀ enums apiName m, Managed.Method.ofFunction enums apiName c f = .ok m →
        m.passesInstance = true →
          (Argument.receiver.name ∉ m.declaredNames ↔ f.ReceiverApart)

/--
In an interface that is accepted, the names in an overload and in a managed
method are distinct exactly if no group and no local variable for a group takes
a name that is presented as well.
-/
theorem extract_namesKept
    (options : Header.Options) (sources : List HeaderSource) (api : Api)
    (accepted : (extract options sources).result = .ok api) :
    api.NamesKept := by
  have shape : ∀ c ∈ api.withLifecycle.classes, ∀ f ∈ c.functions, f.Shape c :=
    fun c inApi f inClass => accepted_shape accepted inApi inClass
  constructor
  case overload =>
    intro c inApi f inClass names o made
    exact (shape c inApi f inClass).overloadNames_nodup_iff names made
  case managed =>
    intro c inApi f inClass hasGroups names enums apiName m made
    exact (shape c inApi f inClass).declaredNames_nodup_iff hasGroups names made
  case receiver =>
    intro c inApi f inClass hasGroups names enums apiName m made isMember
    exact (shape c inApi f inClass).receiver_mem_declaredNames_iff hasGroups names made isMember

/-- A group with the name of an argument, a local variable with the name of one, and a local variable
with the name of the receiver. -/
def meetingNamesHeader : HeaderSource :=
  { name := "a.h"
    text :=
      "NAPI_CLASS class A\n" ++
        "NAPI void f_c(int a, const char *a_string);\n" ++
        "NAPI void g_c(int b_ptr, const char *b_string);\n" ++
        "NAPI void h_c(const char *inst_string);" }

/-- A function of `meetingNamesApi` with a text as its last parameter. -/
def textFunction (name : String) (values : List Argument) (base : String) : Function where
  name := name
  symbol := "A_" ++ name
  args := .receiver :: values ++
    [{ name := base ++ "_string", type := "const char *", abiType := "const char *" }]
  result := .void
  arrayGroups := [.text base (base ++ "_string")]

/-- A number as an argument. -/
def numberArgument (name : String) : Argument :=
  { name, type := "int", abiType := "int", typeClass := .basicValue "int" }

def meetingNamesApi : Api :=
  { classes := [
      { name := "A"
        kind := .regular
        functions := [
          textFunction "f_c" [numberArgument "a"] "a",
          textFunction "g_c" [numberArgument "b_ptr"] "b",
          textFunction "h_c" [] "inst"] }] }

theorem extract_meetingNamesHeader :
    (extract {} [meetingNamesHeader]).result = .ok meetingNamesApi := by
  decide +kernel

theorem meetingNamesApi_namesKept :
    (extract {} [meetingNamesHeader]).result = .ok meetingNamesApi ∧ meetingNamesApi.NamesKept :=
  ⟨extract_meetingNamesHeader,
    extract_namesKept {} [meetingNamesHeader] meetingNamesApi extract_meetingNamesHeader⟩

/-- Distinct raw names do not always give distinct names in the wrappers. -/
theorem names_not_always_distinct :
    ¬ ∀ (options : Header.Options) (sources : List HeaderSource) (api : Api),
      (extract options sources).result = .ok api →
        ∀ c ∈ api.withLifecycle.classes, ∀ f ∈ c.functions,
          f.arrayGroups ≠ [] → (f.args.map Argument.name).Nodup →
            (∀ o, Native.Overload.ofFunction? c f = some o →
              (o.forwarded.map fun forwarded => forwarded.param.name).Nodup) ∧
            ∀ enums apiName m, Managed.Method.ofFunction enums apiName c f = .ok m →
              m.declaredNames.Nodup := by
  intro always
  have distinct := always {} [meetingNamesHeader] meetingNamesApi extract_meetingNamesHeader
    _ List.mem_cons_self (textFunction "f_c" [numberArgument "a"] "a") List.mem_cons_self
    (by decide) (by decide)
  exact absurd (distinct.1 _ rfl) (by decide)

end HeaderBindings
