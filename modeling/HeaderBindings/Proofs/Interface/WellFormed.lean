import HeaderBindings.Proofs.Interface.KnownTypes
import HeaderBindings.Proofs.Typing.GroupConvention

/-!
# The interface that is accepted

An extraction that succeeds gives a well-formed interface.  What the headers
declare is traced through the resolution: arguments and results keep agreeing
with the classes of their types, and a type is only given the class of
something that the interface declares.
-/

namespace HeaderBindings

/-! ## Well-formed interfaces -/

/-- The class of a type refers to nothing that is not declared. -/
def TypeClass.Grounded (classes : List Class) : TypeClass → Prop
  | .refCounted className => ∃ c ∈ classes, c.name = className
  | .enumeration owner name underlying =>
      ∃ c ∈ classes, c.name = owner ∧ ∃ e ∈ c.enums, e.name = name ∧ e.underlying = underlying
  | _ => True

/-- An argument that crosses the boundary in the way of the class of its type. -/
structure Argument.WellFormed (classes : List Class) (arg : Argument) : Prop where
  abi : arg.abiType = Typing.abiType arg.type arg.typeClass .argument
  grounded : arg.typeClass.Grounded classes

/-- A result that crosses the boundary in the way of the class of its type. -/
structure Return.WellFormed (classes : List Class) (result : Return) : Prop where
  abi : result.abiType = Typing.abiType result.type result.typeClass .result
  grounded : result.typeClass.Grounded classes

/-- A function that agrees with its class and with the classes around it. -/
structure Function.WellFormed (classes : List Class) (c : Class) (f : Function) : Prop where
  isPublic : f.isPrivate = false
  symbol : f.symbol = c.name ++ "_" ++ f.name
  noReceiver : c.isSingleton = true → ∀ arg ∈ f.args, arg.isInstance = false
  receiver : c.isSingleton = false →
    ∃ first values, f.args = first :: values ∧ first.isInstance = true ∧
      ∀ arg ∈ values, arg.isInstance = false
  returnsSelf : f.returnsSelf = true →
    c.isSingleton = false ∧ f.result.type = "void" ∧ f.result.typeClass = .plain
  arrayGroups : f.arrayGroups ≠ [] ↔ Text.endsWith f.name "_c" = true
  args : ∀ arg ∈ f.args, arg.WellFormed classes
  result : f.result.WellFormed classes

/-- The names of the constants of all enums of a class. -/
def Class.constantNames (c : Class) : List String :=
  c.enums.flatMap fun e => e.constants.map EnumConstant.name

/-- An interface whose parts agree with each other. -/
structure Api.WellFormed (api : Api) : Prop where
  names : (api.classes.map Class.name).Nodup
  functions : ∀ c ∈ api.classes, ∀ f ∈ c.functions, f.WellFormed api.classes c
  properties : ∀ c ∈ api.classes, ∀ p ∈ c.properties, p.valueType.WellFormed api.classes
  constants : (api.classes.flatMap Class.constantNames).Nodup

namespace Resolve

variable {exposed : List String} {index : EnumIndex} {enums : List (String × EnumType)}

/-! ## One function -/

section OneFunction

variable {owner : String} {kind : ClassKind} {declared resolved : Function}

theorem receivers_singleton {c : Class} (singleton : c.isSingleton = true) :
    c.kind.receivers = [] :=
  if_pos singleton

theorem receivers_not_singleton {c : Class} (notSingleton : c.isSingleton = false) :
    c.kind.receivers = [Argument.receiver] :=
  if_neg (Bool.eq_false_iff.mp notSingleton)

/-- The arguments of a function before and after the resolution. -/
theorem resolved_args
    (isDeclared : declared.Declared owner kind)
    (related : ResolvedFunction exposed index declared resolved) :
    ∃ values,
      declared.args = kind.receivers ++ values ∧
      (∀ arg ∈ values, arg.Declared) ∧
      resolved.args = kind.receivers ++ values.map (typedArgument exposed index declared) := by
  rcases related with ⟨docs, rfl⟩
  rcases isDeclared.args with ⟨values, args, declaredValues⟩
  refine ⟨values, args, declaredValues, ?_⟩
  have receivers :
      kind.receivers.map (typedArgument exposed index declared) = kind.receivers := by
    rw [ClassKind.receivers]
    split
    · rfl
    · simp [typedArgument_receiver, Argument.receiver]
  simp only [typedFunction, args, List.map_append, receivers]

/-- The value arguments of a function keep the pieces of its groups. -/
theorem resolved_grouped
    (isDeclared : declared.Declared owner kind)
    (related : ResolvedFunction exposed index declared resolved) :
    ∃ values,
      resolved.args = kind.receivers ++ values ∧
      (∀ arg ∈ values, arg.isInstance = false) ∧
      Typing.Grouped values resolved.arrayGroups := by
  rcases isDeclared.grouped with ⟨values, declaredArgs, declaredValues, grouped⟩
  rcases resolved_args isDeclared related with ⟨_, sameArgs, _, args⟩
  rw [declaredArgs] at sameArgs
  cases List.append_cancel_left sameArgs
  rcases related with ⟨docs, rfl⟩
  refine ⟨_, args, ?_, grouped.map (by simp) (by simp)⟩
  intro arg member
  rcases List.mem_map.mp member with ⟨before, inValues, rfl⟩
  rw [typedArgument_isInstance]
  exact (declaredValues before inValues).value

theorem resolved_argument_typed
    (indexes : Indexes index enums)
    (isDeclared : declared.Declared owner kind)
    (related : ResolvedFunction exposed index declared resolved) :
    ∀ arg ∈ resolved.args, TypedArgument exposed index arg := by
  rcases resolved_args isDeclared related with ⟨values, _, declaredValues, args⟩
  intro arg member
  rw [args] at member
  rcases List.mem_append.mp member with receiver | value
  · rw [ClassKind.receivers] at receiver
    split at receiver
    · cases receiver
    · rw [List.mem_singleton.mp receiver]
      exact ⟨by rfl, .plain⟩
  · rcases List.mem_map.mp value with ⟨before, inValues, rfl⟩
    have isPlain := (declaredValues before inValues).plain
    have typed : TypedArgument exposed index before := by
      constructor
      · rw [isPlain]
        exact (declaredValues before inValues).abi
      · rw [isPlain]
        exact .plain
    exact attachArgument_typed indexes (classifyArgument_typed typed)

theorem resolved_result_typed
    (indexes : Indexes index enums)
    (isDeclared : declared.Declared owner kind)
    (related : ResolvedFunction exposed index declared resolved) :
    TypedReturn exposed index resolved.result := by
  rcases related with ⟨docs, rfl⟩
  have typed : TypedReturn exposed index declared.result := by
    constructor
    · rw [isDeclared.resultPlain]
      exact isDeclared.resultAbi
    · rw [isDeclared.resultPlain]
      exact .plain
  exact attachResult_typed indexes (classifyResult_typed typed)

/-- What the conclusion takes from the resolution is stated with the classes around. -/
theorem resolved_wellFormed
    {classes : List Class} {c : Class}
    (indexes : Indexes index enums)
    (grounded : ∀ typeClass, Known exposed index typeClass → typeClass.Grounded classes)
    (isDeclared : declared.Declared c.name c.kind)
    (related : ResolvedFunction exposed index declared resolved) :
    resolved.WellFormed classes c := by
  have typedArgs := resolved_argument_typed indexes isDeclared related
  have typedReturn := resolved_result_typed indexes isDeclared related
  rcases resolved_grouped isDeclared related with ⟨values, args, valueArgs, _⟩
  rcases related with ⟨docs, isResolved⟩
  constructor
  case isPublic =>
    rw [isResolved]
    exact isDeclared.isPublic
  case symbol =>
    rw [isResolved]
    exact isDeclared.symbol
  case noReceiver =>
    intro singleton
    rw [args, receivers_singleton singleton]
    exact valueArgs
  case receiver =>
    intro notSingleton
    rw [args, receivers_not_singleton notSingleton]
    exact ⟨Argument.receiver, _, rfl, rfl, valueArgs⟩
  case returnsSelf =>
    intro returns
    have declaredReturns : declared.returnsSelf = true := by
      rw [isResolved] at returns
      exact returns
    rcases isDeclared.returnsSelf declaredReturns with ⟨notSingleton, type⟩
    have result : resolved.result = declared.result := by
      rw [isResolved]
      exact typedResult_returnsSelf indexes declaredReturns type
    rw [result]
    exact ⟨notSingleton, type, isDeclared.resultPlain⟩
  case arrayGroups =>
    rw [isResolved]
    exact (Typing.arrayGroups_ok isDeclared.groups).2
  case args =>
    intro arg member
    exact ⟨(typedArgs arg member).abi, grounded _ (typedArgs arg member).known⟩
  case result =>
    exact ⟨typedReturn.abi, grounded _ typedReturn.known⟩

end OneFunction

/-! ## All classes -/

/-- What is known of the classes that an index is made from is declared by them. -/
theorem grounded_of_known
    {classes : List Class} {index : EnumIndex} {typeClass : TypeClass}
    (indexes : Indexes index (ownedEnums classes))
    (known : Known (classes.map Class.name) index typeClass) :
    typeClass.Grounded classes := by
  cases known with
  | plain => trivial
  | object => trivial
  | basicValue => trivial
  | refCounted exposes => exact List.mem_map.mp exposes
  | enumeration member =>
      rcases indexes.sound _ member with ⟨owned, inEnums, isEntry⟩
      rw [entryOf, Prod.mk.injEq] at isEntry
      cases isEntry.2
      rcases mem_ownedEnums.mp inEnums with ⟨c, inClasses, sameOwner, inOwner⟩
      exact ⟨c, inClasses, sameOwner, owned.2, inOwner, rfl, rfl⟩

/-- What is declared before the resolution is declared after it. -/
theorem grounded_of_related
    {declared resolved : List Class} {typeClass : TypeClass}
    (related : List.Forall₂ (ResolvedClass exposed index) declared resolved)
    (grounded : typeClass.Grounded declared) :
    typeClass.Grounded resolved := by
  cases typeClass with
  | plain => trivial
  | object => trivial
  | basicValue => trivial
  | refCounted className =>
      rcases grounded with ⟨c, inDeclared, name⟩
      rcases Related.exists_of_mem_left related inDeclared with ⟨after, inResolved, pair⟩
      exact ⟨after, inResolved, pair.name.trans name⟩
  | enumeration owner name underlying =>
      rcases grounded with ⟨c, inDeclared, sameOwner, e, inEnums, isEnum⟩
      rcases Related.exists_of_mem_left related inDeclared with ⟨after, inResolved, pair⟩
      exact ⟨after, inResolved, pair.name.trans sameOwner, e, pair.enums ▸ inEnums, isEnum⟩

theorem mem_properties {c : Class} {p : Property} (member : p ∈ properties c) :
    ∃ f ∈ c.functions, p.valueType = f.result := by
  rcases List.mem_filterMap.mp member with ⟨setter, _, isProperty⟩
  rw [propertyOf?] at isProperty
  split at isProperty
  · cases isProperty
  · split at isProperty
    · rcases Option.map_eq_some_iff.mp isProperty with ⟨getter, found, equal⟩
      have accessor := List.mem_of_find?_eq_some found
      exact ⟨getter, (List.mem_filter.mp accessor).1, by rw [← equal]⟩
    · cases isProperty

theorem flatMap_constantNames (classes : List Class) :
    classes.flatMap Class.constantNames = (ownedEnums classes).flatMap constantNames := by
  rw [ownedEnums, List.flatMap_assoc]
  apply List.flatMap_congr
  intro c _
  rw [List.flatMap_map]
  rfl

end Resolve

/-! ## Acceptance -/

section Acceptance

variable {options : Header.Options} {sources : List HeaderSource} {api : Api}

/-- Every class that is accepted comes from a declared one, and so does every function of it. -/
theorem accepted_function
    (accepted : (extract options sources).result = .ok api)
    {c : Class} (inApi : c ∈ api.classes)
    {f : Function} (inClass : f ∈ c.functions) :
    ∃ (exposed : List String) (index : Resolve.EnumIndex) (declared : Function),
      (∀ typeClass, Resolve.Known exposed index typeClass → typeClass.Grounded api.classes) ∧
      (∃ enums, Resolve.Indexes index enums) ∧
      declared.Declared c.name c.kind ∧
      Resolve.ResolvedFunction exposed index declared f := by
  rcases extract_ok accepted with ⟨index, indexes, related⟩
  have isDeclared := gathered_declared options sources
  generalize (gather options {} sources).api = gathered at indexes related isDeclared
  rcases Related.exists_of_mem_right related inApi with ⟨before, inGathered, pair⟩
  rcases Related.exists_of_mem_right pair.functions inClass with ⟨g, inBefore, function⟩
  have declared := (isDeclared.classes before inGathered).functions g inBefore
  rw [← pair.name, ← pair.kind] at declared
  refine ⟨_, index, g, ?_, ⟨_, indexes⟩, declared, function⟩
  intro typeClass known
  exact Resolve.grounded_of_related related (Resolve.grounded_of_known indexes known)

theorem accepted_wellFormed
    (accepted : (extract options sources).result = .ok api)
    {c : Class} (inApi : c ∈ api.classes)
    {f : Function} (inClass : f ∈ c.functions) :
    f.WellFormed api.classes c := by
  obtain ⟨exposed, index, declared, grounded, ⟨enums, indexes⟩, isDeclared, related⟩ :=
    accepted_function accepted inApi inClass
  exact Resolve.resolved_wellFormed indexes grounded isDeclared related

/-- The arguments of a function that is accepted, cut into the pieces of its groups. -/
theorem accepted_args
    (accepted : (extract options sources).result = .ok api)
    {c : Class} (inApi : c ∈ api.classes)
    {f : Function} (inClass : f ∈ c.functions) :
    ∃ values,
      f.args = c.kind.receivers ++ values ∧
      (∀ arg ∈ values, arg.isInstance = false) ∧
      Typing.Grouped values f.arrayGroups := by
  obtain ⟨exposed, index, declared, _, _, isDeclared, related⟩ :=
    accepted_function accepted inApi inClass
  exact Resolve.resolved_grouped isDeclared related

/-- No two classes of an interface that is accepted share their name. -/
theorem accepted_names (accepted : (extract options sources).result = .ok api) :
    (api.classes.map Class.name).Nodup := by
  rcases extract_ok accepted with ⟨index, _, related⟩
  rw [Related.map_eq (fun _ _ pair => pair.name) related]
  exact (gathered_declared options sources).names

/-- No two constants of an interface that is accepted share their name. -/
theorem accepted_constants (accepted : (extract options sources).result = .ok api) :
    (api.classes.flatMap Class.constantNames).Nodup := by
  rcases extract_ok accepted with ⟨index, indexes, related⟩
  have same : api.classes.flatMap Class.constantNames =
      (gather options {} sources).api.classes.flatMap Class.constantNames :=
    Related.flatMap_eq
      (fun _ _ pair => by rw [Class.constantNames, Class.constantNames, pair.enums]) related
  rw [same, Resolve.flatMap_constantNames]
  exact indexes.distinct

end Acceptance

/-- Whatever the options and the headers are, an interface that is accepted is well formed. -/
theorem extract_wellFormed
    (options : Header.Options) (sources : List HeaderSource) (api : Api)
    (accepted : (extract options sources).result = .ok api) :
    api.WellFormed := by
  constructor
  case names => exact accepted_names accepted
  case functions =>
    intro c inApi f inClass
    exact accepted_wellFormed accepted inApi inClass
  case properties =>
    intro c inApi p member
    rcases extract_ok accepted with ⟨index, _, related⟩
    rcases Related.exists_of_mem_right related inApi with ⟨before, _, pair⟩
    rw [pair.properties] at member
    rcases Resolve.mem_properties member with ⟨f, inClass, valueType⟩
    rw [valueType]
    exact (accepted_wellFormed accepted inApi inClass).result
  case constants => exact accepted_constants accepted

/-- A class with an enum and with a function that takes an array of it. -/
def enumArrayHeader : HeaderSource :=
  { name := "a.h"
    text :=
      "NAPI_CLASS class A\nNAPI_ENUM enum M : int\x7bX\x7d;\n" ++
        "NAPI A::M f_c(A::M *a_data, uint64_t a_size);" }

/-- The interface of `enumArrayHeader`. -/
def enumArrayApi : Api :=
  { classes := [{
      name := "A"
      kind := .regular
      enums := [{ name := "M", underlying := "int", constants := [⟨"X", "0"⟩] }]
      functions := [{
        name := "f_c"
        symbol := "A_f_c"
        args := [
          .receiver,
          { name := "a_data"
            type := "A::M *"
            abiType := "const int"
            typeClass := .enumeration "A" "M" "int" },
          { name := "a_size", type := "uint64_t", abiType := "uint64_t" }]
        result :=
          { type := "A::M", abiType := "int", typeClass := .enumeration "A" "M" "int" }
        arrayGroups := [.data "a" "a_data" "a_size" "A::M"] }] }] }

theorem extract_enumArrayHeader :
    (extract {} [enumArrayHeader]).result = .ok enumArrayApi := by
  decide +kernel

theorem enumArrayApi_wellFormed :
    (extract {} [enumArrayHeader]).result = .ok enumArrayApi ∧ enumArrayApi.WellFormed :=
  ⟨extract_enumArrayHeader,
    extract_wellFormed {} [enumArrayHeader] enumArrayApi extract_enumArrayHeader⟩

end HeaderBindings
