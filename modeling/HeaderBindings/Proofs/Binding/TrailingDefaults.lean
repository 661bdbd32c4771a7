import HeaderBindings.Proofs.Binding.WrapperParameters

/-!
# Defaults at the end of a signature

A signature is usable if no parameter without a default stands behind one that
has a default.  The methods of the native wrapper keep the declared defaults, so
they keep their order.  A container parameter has no default, whatever its raw
arguments are declared with, so the overload and the managed method keep the
order exactly if no group stands behind a default outside the groups.
-/

namespace HeaderBindings

/-- The items that satisfy `p` stand behind all others. -/
def Trailing {α : Type} (p : α → Bool) (items : List α) : Prop :=
  ∃ before after, items = before ++ after ∧
    (∀ item ∈ before, p item = false) ∧ ∀ item ∈ after, p item = true

theorem trailing_iff_pairwise {α : Type} {p : α → Bool} {items : List α} :
    Trailing p items ↔ items.Pairwise fun first second => p first = true → p second = true := by
  constructor
  · rintro ⟨before, after, rfl, without, satisfied⟩
    rw [List.pairwise_append]
    refine ⟨?_, ?_, ?_⟩
    · apply List.pairwise_of_forall_mem_list
      intro first member second _ holds
      rw [without first member] at holds
      cases holds
    · apply List.pairwise_of_forall_mem_list
      exact fun _ _ second member _ => satisfied second member
    · exact fun _ _ second member _ => satisfied second member
  · intro ordered
    induction ordered with
    | nil => exact ⟨[], [], rfl, by simp, by simp⟩
    | @cons item items later _ ih =>
        cases here : p item with
        | true =>
            refine ⟨[], item :: items, rfl, by simp, ?_⟩
            rw [List.forall_mem_cons]
            exact ⟨here, fun other member => later other member here⟩
        | false =>
            rcases ih with ⟨before, after, rfl, without, satisfied⟩
            refine ⟨item :: before, after, rfl, ?_, satisfied⟩
            exact List.forall_mem_cons.mpr ⟨here, without⟩

/-- Whether the items come last is decided by which ones satisfy the predicate. -/
theorem trailing_congr {α β : Type} {p : α → Bool} {q : β → Bool} {left : List α} {right : List β}
    (same : left.map p = right.map q) : Trailing p left ↔ Trailing q right := by
  have through {γ : Type} (r : γ → Bool) (items : List γ) :
      Trailing r items ↔
        (items.map r).Pairwise fun first second => first = true → second = true := by
    rw [trailing_iff_pairwise, List.pairwise_map]
  rw [through, through, same]

open HeaderBindings.Typing

/-! ## The order of the parameters -/

/-- Whether an argument is declared with a default. -/
def Argument.hasDefault (arg : Argument) : Bool :=
  arg.default.isSome

namespace Function

variable {f : Function}

/-- No argument of a group stands behind a default outside the groups. -/
def GroupsLead (f : Function) : Prop :=
  f.args.Pairwise fun first second =>
    first.hasDefault = true → f.groupOf? first.name = none → f.groupOf? second.name = none

/-- Among arguments that all have defaults, exactly the groups have none. -/
theorem all_hasDefault_iff
    {args : List Argument} {groups : List ArrayGroup}
    (regular : f.RegularGroups)
    (included : ∀ group ∈ groups, group ∈ f.arrayGroups)
    (grouped : Grouped args groups)
    (given : ∀ arg ∈ args, arg.hasDefault = true) :
    (∀ param ∈ args.filterMap f.wrapperParam?, param.hasDefault = true) ↔
      ∀ arg ∈ args, f.groupOf? arg.name = none := by
  induction grouped with
  | nil => simp
  | @single args groups arg free rest ih =>
      rcases List.forall_mem_cons.mp given with ⟨here, later⟩
      rw [List.filterMap_cons_some (wrapperParam?_free regular free), List.forall_mem_cons,
        List.forall_mem_cons, ih included later]
      exact and_congr_left fun _ => iff_of_true here (groupOf?_free regular free)
  | @data args groups pointer count base pointee pointerName _ countName _ rest ih =>
      rw [pointerName, countName] at included
      rcases List.forall_mem_cons.mp included with ⟨member, _⟩
      obtain ⟨⟨element, atPointer⟩, _⟩ := wrapperParam?_data regular pointerName countName member
      obtain ⟨⟨found, owned⟩, _⟩ := groupOf?_data regular member
      rw [List.filterMap_cons_some atPointer, List.forall_mem_cons, List.forall_mem_cons,
        pointerName, owned]
      simp [WrapperParam.hasDefault]
  | @text args groups arg base textName _ rest ih =>
      rw [textName] at included
      rcases List.forall_mem_cons.mp included with ⟨member, _⟩
      rw [List.filterMap_cons_some (wrapperParam?_text regular textName member),
        List.forall_mem_cons, List.forall_mem_cons, textName, groupOf?_text regular member]
      simp [WrapperParam.hasDefault]

/-- The parameters keep the order of the defaults if no group comes behind one. -/
theorem ordered_iff
    {args : List Argument} {groups : List ArrayGroup}
    (regular : f.RegularGroups)
    (included : ∀ group ∈ groups, group ∈ f.arrayGroups)
    (grouped : Grouped args groups)
    (declared : args.Pairwise fun first second =>
      first.hasDefault = true → second.hasDefault = true) :
    ((args.filterMap f.wrapperParam?).Pairwise fun first second =>
        first.hasDefault = true → second.hasDefault = true) ↔
      args.Pairwise fun first second =>
        first.hasDefault = true → f.groupOf? first.name = none →
          f.groupOf? second.name = none := by
  induction grouped with
  | nil => simp
  | @single args groups arg free rest ih =>
      rcases List.pairwise_cons.mp declared with ⟨behind, others⟩
      rw [List.filterMap_cons_some (wrapperParam?_free regular free), List.pairwise_cons,
        List.pairwise_cons, ih included others]
      refine and_congr_left fun _ => ?_
      cases here : arg.hasDefault with
      | false =>
          have noDefault : WrapperParam.hasDefault (.arg arg) = false := here
          simp [noDefault]
      | true =>
          have hasDefault : WrapperParam.hasDefault (.arg arg) = true := here
          have given : ∀ other ∈ args, other.hasDefault = true :=
            fun other member => behind other member here
          simpa [hasDefault, groupOf?_free regular free] using
            all_hasDefault_iff regular included rest given
  | @data args groups pointer count base pointee pointerName _ countName _ rest ih =>
      rw [pointerName, countName] at included
      rcases List.forall_mem_cons.mp included with ⟨member, later⟩
      obtain ⟨⟨element, atPointer⟩, atCount⟩ :=
        wrapperParam?_data regular pointerName countName member
      obtain ⟨⟨first, ownsPointer⟩, second, ownsCount⟩ := groupOf?_data regular member
      have others := (List.pairwise_cons.mp (List.pairwise_cons.mp declared).2).2
      rw [List.filterMap_cons_some atPointer, List.filterMap_cons_none atCount,
        List.pairwise_cons, List.pairwise_cons, List.pairwise_cons, ih later others, pointerName,
        countName, ownsPointer, ownsCount]
      simp [WrapperParam.hasDefault]
  | @text args groups arg base textName _ rest ih =>
      rw [textName] at included
      rcases List.forall_mem_cons.mp included with ⟨member, later⟩
      have others := (List.pairwise_cons.mp declared).2
      rw [List.filterMap_cons_some (wrapperParam?_text regular textName member),
        List.pairwise_cons, List.pairwise_cons, ih later others, textName,
        groupOf?_text regular member]
      simp [WrapperParam.hasDefault]

/-- The receiver has no default, so it has no part in the order of the defaults. -/
theorem Shape.pairwise_args
    {c : Class} (shape : f.Shape c) {relation : Argument → Argument → Prop}
    (passed : ∀ arg, relation .receiver arg) :
    f.args.Pairwise relation ↔ (f.ownArgs c).Pairwise relation := by
  rw [shape.args_eq]
  cases f.isMember c with
  | false => simp
  | true => simp [passed]

theorem Shape.ownArgs_ordered
    {c : Class} (shape : f.Shape c)
    (declared : Trailing Argument.hasDefault f.args) :
    (f.ownArgs c).Pairwise fun first second =>
      first.hasDefault = true → second.hasDefault = true := by
  have ordered := trailing_iff_pairwise.mp declared
  rwa [shape.pairwise_args (by simp [Argument.hasDefault, Argument.receiver])] at ordered

/-- The parameters that stand for the own arguments of a function with trailing defaults. -/
theorem Shape.trailing_iff
    {c : Class} (shape : f.Shape c)
    (declared : Trailing Argument.hasDefault f.args) :
    Trailing WrapperParam.hasDefault ((f.ownArgs c).filterMap f.wrapperParam?) ↔
      f.GroupsLead := by
  rcases shape.ownArgs_grouped with ⟨grouped, _⟩
  rw [trailing_iff_pairwise, GroupsLead,
    shape.pairwise_args (by simp [Argument.hasDefault, Argument.receiver]),
    ordered_iff grouped.regular (fun _ member => member) grouped (shape.ownArgs_ordered declared)]

end Function

/-! ## All signatures -/

/-- The defaults in the signatures for every function whose declared defaults stand at the end. -/
structure Api.DefaultsTrail (api : Api) : Prop where
  native : ∀ c ∈ api.withLifecycle.classes, ∀ f ∈ c.functions,
    Trailing Argument.hasDefault f.args →
      Trailing (fun param => param.default.isSome) (Native.Method.ofFunction c f).params
  overload : ∀ c ∈ api.withLifecycle.classes, ∀ f ∈ c.functions,
    Trailing Argument.hasDefault f.args →
      ∀ o, Native.Overload.ofFunction? c f = some o →
        (Trailing (fun param => param.default.isSome) (o.forwarded.map Native.Forwarded.param) ↔
          f.GroupsLead)
  managed : ∀ c ∈ api.withLifecycle.classes, ∀ f ∈ c.functions,
    Trailing Argument.hasDefault f.args →
      ∀ enums apiName m, Managed.Method.ofFunction enums apiName c f = .ok m →
        (Trailing (fun param => param.default.isSome) m.params ↔ f.GroupsLead)

/--
In an interface that is accepted, trailing defaults stay at the end of every
method of the native wrapper.  They stay at the end of an overload and of a
managed method exactly if no group stands behind a default.
-/
theorem extract_defaultsTrail
    (options : Header.Options) (sources : List HeaderSource) (api : Api)
    (accepted : (extract options sources).result = .ok api) :
    api.DefaultsTrail := by
  have shape : ∀ c ∈ api.withLifecycle.classes, ∀ f ∈ c.functions, f.Shape c :=
    fun c inApi f inClass => accepted_shape accepted inApi inClass
  constructor
  case native =>
    intro c inApi f inClass declared
    have same : (Native.Method.ofFunction c f).params.map (fun param => param.default.isSome) =
        (f.ownArgs c).map Argument.hasDefault := List.map_map
    rw [trailing_congr same, trailing_iff_pairwise]
    exact (shape c inApi f inClass).ownArgs_ordered declared
  case overload =>
    intro c inApi f inClass declared o made
    have own := (shape c inApi f inClass).ownArgs_grouped.2 (Native.overload_hasGroups made)
    have shown := (Native.overload_shows made).2
    rw [Function.wrapperParams_eq, own] at shown
    have same : (o.forwarded.map Native.Forwarded.param).map (fun param => param.default.isSome) =
        ((f.ownArgs c).filterMap f.wrapperParam?).map WrapperParam.hasDefault :=
      List.map_map.trans shown
    rw [trailing_congr same, (shape c inApi f inClass).trailing_iff declared]
  case managed =>
    intro c inApi f inClass declared enums apiName m made
    rw [trailing_congr (Managed.ofFunction_shows made).2,
      (shape c inApi f inClass).trailing_iff declared]

/-- A text behind a default, with a default of its own. -/
def defaultedTextHeader : HeaderSource :=
  { name := "a.h"
    text :=
      "NAPI_CLASS_SINGLETON class A\n" ++
        "NAPI void f_c(int a = 1, const char *t_string = nullptr);" }

def defaultedTextFunction : Function where
  name := "f_c"
  symbol := "A_f_c"
  args := [
    { name := "a", type := "int", abiType := "int", default := some "1",
      typeClass := .basicValue "int" },
    { name := "t_string", type := "const char *", abiType := "const char *",
      default := some "nullptr" }]
  result := .void
  arrayGroups := [.text "t" "t_string"]

def defaultedTextApi : Api :=
  { classes := [{ name := "A", kind := .singleton, functions := [defaultedTextFunction] }] }

theorem extract_defaultedTextHeader :
    (extract {} [defaultedTextHeader]).result = .ok defaultedTextApi := by
  decide +kernel

theorem defaultedTextApi_defaultsTrail :
    (extract {} [defaultedTextHeader]).result = .ok defaultedTextApi ∧
      defaultedTextApi.DefaultsTrail :=
  ⟨extract_defaultedTextHeader,
    extract_defaultsTrail {} [defaultedTextHeader] defaultedTextApi extract_defaultedTextHeader⟩

/-- Declared defaults at the end do not always stay there. -/
theorem defaults_not_always_trailing :
    ¬ ∀ (options : Header.Options) (sources : List HeaderSource) (api : Api),
      (extract options sources).result = .ok api →
        ∀ c ∈ api.withLifecycle.classes, ∀ f ∈ c.functions,
          Trailing Argument.hasDefault f.args →
            Trailing (fun param => param.default.isSome) (Native.Method.ofFunction c f).params ∧
            (∀ o, Native.Overload.ofFunction? c f = some o →
              Trailing (fun param => param.default.isSome)
                (o.forwarded.map Native.Forwarded.param)) ∧
            ∀ enums apiName m, Managed.Method.ofFunction enums apiName c f = .ok m →
              Trailing (fun param => param.default.isSome) m.params := by
  intro always
  obtain ⟨_, overload, _⟩ := always {} [defaultedTextHeader] defaultedTextApi
    extract_defaultedTextHeader _ List.mem_cons_self defaultedTextFunction List.mem_cons_self
    (trailing_iff_pairwise.mpr (by decide))
  have trailing := overload _ rfl
  rw [trailing_iff_pairwise] at trailing
  exact absurd trailing (by decide)

end HeaderBindings
