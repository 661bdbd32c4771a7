import HeaderBindings.Proofs.Binding.CallSites
import HeaderBindings.Proofs.Binding.CommonHead
import HeaderBindings.Proofs.Interface.Accepted

/-!
# The names of all enums

The managed wrapper looks up the names of an enum, and of each of its
constants, in a table with one entry for each qualified name.  An enum of an
accepted interface always has an entry there, but of several enums of one name
in a class only the last one does.  The wrapper is not defined exactly if the
constants of an enum part inside a character, or if a class comes to be written
in which an enum with constants is followed by another one of its name.
-/

namespace HeaderBindings

namespace Managed

open Resolve (ownedEnums)

/-! ## The table -/

section Entries

variable {api : Api} {table : EnumTable}

/-- An entry of the table for an enum of a class. -/
structure Lists (owned : String × EnumType) (entry : String × EnumNames) : Prop where
  key : entry.1 = qualifiedName owned.1 owned.2.name
  names : EnumNames.ofEnum owned.1 owned.2 = .ok entry.2

theorem classEntries_ok {c : Class} {entries : EnumTable} (made : classEntries c = .ok entries) :
    List.Forall₂ Lists (c.enums.map fun e => (c.name, e)) entries := by
  rw [classEntries] at made
  rw [List.forall₂_map_left_iff]
  refine (Outcome.mapM_eq_ok_iff.mp made).imp fun e entry one => ?_
  rcases Outcome.bind_eq_ok_iff.mp one with ⟨names, named, equal⟩
  cases equal
  exact ⟨rfl, named⟩

/-- The table lists all enums, the last one first. -/
theorem ofApi_ok (made : EnumTable.ofApi api = .ok table) :
    List.Forall₂ Lists (ownedEnums api.classes) table.reverse := by
  rw [EnumTable.ofApi] at made
  rcases Outcome.bind_eq_ok_iff.mp made with ⟨entries, each, equal⟩
  cases equal
  rw [List.reverse_reverse, ownedEnums, List.flatMap_def]
  refine List.rel_flatten ?_
  rw [List.forall₂_map_left_iff]
  exact (Outcome.mapM_eq_ok_iff.mp each).imp fun _ _ => classEntries_ok

/-- The last enum of a qualified name is found. -/
theorem find?_of_lastOf (made : EnumTable.ofApi api = .ok table) {owned : String × EnumType}
    (last : Table.LastOf (fun owned => qualifiedName owned.1 owned.2.name)
      (ownedEnums api.classes) owned) :
    ∃ names, EnumNames.ofEnum owned.1 owned.2 = .ok names ∧
      table.find? owned.1 owned.2.name = some names := by
  rcases last with ⟨before, after, split, free⟩
  have listed := ofApi_ok made
  rw [split] at listed
  rcases Related.exists_split listed with ⟨earlier, entry, later, isTable, one, _, others⟩
  refine ⟨entry.2, one.names, ?_⟩
  rw [EnumTable.find?, List.lookup_eq_some_iff]
  refine ⟨later.reverse, earlier.reverse, ?_, ?_⟩
  · rw [← List.reverse_reverse table, isTable, ← one.key]
    simp
  · intro other inLater
    rcases Related.exists_of_mem_right others (List.mem_reverse.mp inLater) with
      ⟨declared, inAfter, otherOne⟩
    rw [otherOne.key, bne_iff_ne]
    exact (free declared inAfter).symm

/-- What is found for an enum are the names of the last enum of its name in its class. -/
theorem find?_ofApi (made : EnumTable.ofApi api = .ok table)
    (names : (api.classes.map Class.name).Nodup) (wordNamed : ∀ c ∈ api.classes, c.WordNamed)
    {c : Class} (inApi : c ∈ api.classes) {e last : EnumType}
    (isLast : Table.LastOf EnumType.name c.enums last) (sameName : last.name = e.name) :
    ∃ found, EnumNames.ofEnum c.name last = .ok found ∧
      table.find? c.name e.name = some found := by
  rw [← sameName]
  exact find?_of_lastOf made (Resolve.lastOf_ownedEnums names wordNamed inApi isLast)

end Entries

/-! ## The constants of an enum -/

section Constants

/-- An enum whose constants part inside a character. -/
def PartsInsideCharacter (e : EnumType) : Prop :=
  PartInsideCharacter (e.constants.map EnumConstant.name)

theorem lookup_map_key {α : Type} (items : List α) (key : α → String) (value : String → String)
    (name : String) :
    (items.map fun item => (key item, value (key item))).lookup name =
      if name ∈ items.map key then some (value name) else none := by
  induction items with
  | nil => rfl
  | cons item items ih =>
      rw [List.map_cons, List.map_cons, List.lookup_cons, ih]
      by_cases same : name = key item
      · simp [same]
      · simp [beq_eq_false_iff_ne.mpr same, same]

theorem ofEnum_ok {owner : String} {e : EnumType} {names : EnumNames}
    (named : EnumNames.ofEnum owner e = .ok names) :
    ∃ head, commonHead? (e.constants.map EnumConstant.name) = some head ∧
      ∀ constant, names.constant? constant =
        if constant ∈ e.constants.map EnumConstant.name then some (shortName head constant)
        else none := by
  rw [EnumNames.ofEnum] at named
  split at named
  · cases named
  · rename_i head common
    cases named
    exact ⟨head, common, lookup_map_key e.constants EnumConstant.name (shortName head)⟩

theorem ofEnum_error {owner : String} {e : EnumType} {fault : Fault}
    (failed : EnumNames.ofEnum owner e = .error fault) :
    PartsInsideCharacter e ∧ fault = .splitCharacter owner e.name := by
  rw [EnumNames.ofEnum] at failed
  split at failed
  · rename_i none
    cases failed
    exact ⟨commonHead?_eq_none_iff.mp none, rfl⟩
  · cases failed

/-- The table is not made only if the constants of some enum part inside a character. -/
theorem ofApi_error {api : Api} {fault : Fault} (failed : EnumTable.ofApi api = .error fault) :
    ∃ c ∈ api.classes, ∃ e ∈ c.enums,
      PartsInsideCharacter e ∧ fault = .splitCharacter c.name e.name := by
  rw [EnumTable.ofApi] at failed
  rcases Outcome.bind_eq_error_iff.mp failed with classFailed | ⟨entries, _, impossible⟩
  · rcases Outcome.mapM_eq_error_iff.mp classFailed with ⟨before, c, after, split, _, enumFailed⟩
    rw [classEntries] at enumFailed
    rcases Outcome.mapM_eq_error_iff.mp enumFailed with ⟨_, e, _, enums, _, oneFailed⟩
    rcases Outcome.bind_eq_error_iff.mp oneFailed with namesFailed | ⟨names, _, impossible⟩
    · refine ⟨c, ?_, e, ?_, ofEnum_error namesFailed⟩
      · rw [split]
        exact List.mem_append_right _ List.mem_cons_self
      · rw [enums]
        exact List.mem_append_right _ List.mem_cons_self
    · cases impossible
  · cases impossible

/-- In an interface with a table no constants part inside a character. -/
theorem whole_of_ofApi {api : Api} {table : EnumTable} (made : EnumTable.ofApi api = .ok table)
    {c : Class} (inApi : c ∈ api.classes) {e : EnumType} (inClass : e ∈ c.enums) :
    ¬ PartsInsideCharacter e := by
  have owned : (c.name, e) ∈ ownedEnums api.classes :=
    Resolve.mem_ownedEnums.mpr ⟨c, inApi, rfl, inClass⟩
  rcases Related.exists_of_mem_left (ofApi_ok made) owned with ⟨entry, _, one⟩
  rcases ofEnum_ok one.names with ⟨head, common, _⟩
  intro parts
  rw [commonHead?_eq_none_iff.mpr parts] at common
  cases common

end Constants

/-! ## Enums of one name -/

section SameName

variable {c : Class}

/-- Every enum of a class that is followed by another one of its name has no constants. -/
def KeepsConstants (c : Class) : Prop :=
  c.enums.Pairwise fun earlier later => earlier.name = later.name → earlier.constants = []

/-- Of the enums of one name only the last one has constants. -/
theorem KeepsConstants.eq_lastOf (keeps : KeepsConstants c) {e last : EnumType}
    (inClass : e ∈ c.enums) (isLast : Table.LastOf EnumType.name c.enums last)
    (sameName : last.name = e.name) : e = last ∨ e.constants = [] := by
  rcases isLast with ⟨before, after, split, free⟩
  rw [KeepsConstants, split] at keeps
  rw [split] at inClass
  rcases List.mem_append.mp inClass with inBefore | inRest
  · have empty := (List.pairwise_append.mp keeps).2.2 e inBefore last List.mem_cons_self
    exact Or.inr (empty sameName.symm)
  · rcases List.mem_cons.mp inRest with isLast | inAfter
    · exact Or.inl isLast
    · exact absurd sameName.symm (free e inAfter)

/-- Of distinct constants, the last enum of a name has those of the other ones only if they have
none. -/
theorem keepsConstants_iff (distinct : c.constantNames.Nodup) :
    KeepsConstants c ↔
      ∀ e ∈ c.enums, ∀ last, Table.LastOf EnumType.name c.enums last → last.name = e.name →
        ∀ constant ∈ e.constants, constant.name ∈ last.constants.map EnumConstant.name := by
  constructor
  · intro keeps e inClass last isLast sameName constant member
    rcases keeps.eq_lastOf inClass isLast sameName with rfl | empty
    · exact List.mem_map_of_mem member
    · rw [empty] at member
      cases member
  · intro found
    rw [KeepsConstants, List.pairwise_iff_forall_sublist]
    intro earlier later sublist sameName
    obtain ⟨last, ⟨before, after, split, free⟩, lastName⟩ :
        ∃ last, Table.LastOf EnumType.name c.enums last ∧ last.name = later.name :=
      Table.exists_lastOf (sublist.subset (by simp))
    have inClass : earlier ∈ c.enums := sublist.subset (by simp)
    have constants := found earlier inClass last ⟨before, after, split, free⟩
      (lastName.trans sameName.symm)
    -- the earlier enum stands before the last one, so the two have no constant in common
    have inBefore : earlier ∈ before := by
      rw [split] at sublist
      rcases List.sublist_append_iff.mp sublist with ⟨front, back, isPair, inFront, inBack⟩
      cases front with
      | nil =>
          have laterAfter : later ∈ after := by
            rw [← show [earlier, later] = back from isPair] at inBack
            exact inBack.tail.subset List.mem_cons_self
          exact absurd lastName.symm (free later laterAfter)
      | cons first front =>
          rw [(List.cons.inj isPair).1]
          exact inFront.subset List.mem_cons_self
    have apart : (earlier.constants.map EnumConstant.name).Disjoint
        (last.constants.map EnumConstant.name) := by
      rw [Class.constantNames, split, List.nodup_flatMap] at distinct
      exact (List.pairwise_append.mp distinct.2).2.2 earlier inBefore last List.mem_cons_self
    apply List.eq_nil_iff_forall_not_mem.mpr
    intro constant member
    exact apart (List.mem_map_of_mem member) (constants constant member)

end SameName

/-! ## The outcome of a class -/

section Classes

variable {api : Api} {table : EnumTable} {c : Class} {e last : EnumType}

theorem ofConstant_error {names : EnumNames} {owner enumName : String} {constant : EnumConstant}
    {fault : Fault} (failed : EnumMember.ofConstant names owner enumName constant = .error fault) :
    fault = .unlistedConstant owner enumName constant.name := by
  rw [EnumMember.ofConstant] at failed
  split at failed
  · cases failed
  · cases failed
    rfl

theorem exists_ofConstant_iff {names : EnumNames} {owner enumName : String}
    {constant : EnumConstant} :
    (∃ member, EnumMember.ofConstant names owner enumName constant = .ok member) ↔
      (names.constant? constant.name).isSome := by
  rw [EnumMember.ofConstant]
  cases names.constant? constant.name <;> simp

variable (made : EnumTable.ofApi api = .ok table)
  (names : (api.classes.map Class.name).Nodup) (wordNamed : ∀ c ∈ api.classes, c.WordNamed)
  (inApi : c ∈ api.classes)

include made names wordNamed inApi

/-- An enum is written with the names of the last enum of its name. -/
theorem definition_eq
    (isLast : Table.LastOf EnumType.name c.enums last) (sameName : last.name = e.name) :
    ∃ found, EnumNames.ofEnum c.name last = .ok found ∧
      EnumDefinition.ofEnum table c.name e =
        (e.constants.mapM (EnumMember.ofConstant found c.name e.name)).map fun members =>
          ⟨e.name, typeName e.underlying, members⟩ := by
  rcases find?_ofApi made names wordNamed inApi isLast sameName with ⟨found, named, isFound⟩
  refine ⟨found, named, ?_⟩
  rw [EnumDefinition.ofEnum, isFound]
  dsimp only
  cases e.constants.mapM (EnumMember.ofConstant found c.name e.name) <;> rfl

theorem exists_definition_iff
    (isLast : Table.LastOf EnumType.name c.enums last) (sameName : last.name = e.name) :
    (∃ definition, EnumDefinition.ofEnum table c.name e = .ok definition) ↔
      ∀ constant ∈ e.constants, constant.name ∈ last.constants.map EnumConstant.name := by
  rcases definition_eq made names wordNamed inApi isLast sameName with ⟨found, named, equal⟩
  rcases ofEnum_ok named with ⟨head, _, constants⟩
  have each (constant : EnumConstant) :
      (∃ member, EnumMember.ofConstant found c.name e.name constant = .ok member) ↔
        constant.name ∈ last.constants.map EnumConstant.name := by
    rw [exists_ofConstant_iff, constants]
    split <;> simp_all
  rw [equal]
  simp only [← each]
  rw [← Outcome.exists_mapM_ok_iff]
  simp [Outcome.map_eq_ok_iff]

theorem definition_error (inClass : e ∈ c.enums) {fault : Fault}
    (failed : EnumDefinition.ofEnum table c.name e = .error fault) :
    ∃ constant, fault = .unlistedConstant c.name e.name constant := by
  obtain ⟨last, isLast, sameName⟩ :
      ∃ last, Table.LastOf EnumType.name c.enums last ∧ last.name = e.name :=
    Table.exists_lastOf inClass
  rcases definition_eq made names wordNamed inApi isLast sameName with ⟨found, _, equal⟩
  rw [equal] at failed
  rcases Outcome.mapM_eq_error_iff.mp (Outcome.map_eq_error_iff.mp failed) with
    ⟨_, constant, _, _, _, constantFailed⟩
  exact ⟨constant.name, ofConstant_error constantFailed⟩

/-- The enums of a class are written exactly if no constants are hidden behind another enum. -/
theorem exists_definitions_iff (distinct : c.constantNames.Nodup) :
    (∀ e ∈ c.enums, ∃ definition, EnumDefinition.ofEnum table c.name e = .ok definition) ↔
      KeepsConstants c := by
  rw [keepsConstants_iff distinct]
  constructor
  · intro written e inClass last isLast sameName
    exact (exists_definition_iff made names wordNamed inApi isLast sameName).mp (written e inClass)
  · intro found e inClass
    obtain ⟨last, isLast, sameName⟩ :
        ∃ last, Table.LastOf EnumType.name c.enums last ∧ last.name = e.name :=
      Table.exists_lastOf inClass
    exact (exists_definition_iff made names wordNamed inApi isLast sameName).mpr
      (found e inClass last isLast sameName)

end Classes

/-! ## Documentation -/

section Documentation

variable {enums : EnumTable} {apiName : String} {c : Class} {f : Function}

/-- The name of the parameter that an argument adds to a method. -/
def paramName? (f : Function) (arg : Argument) : Option String :=
  match f.groupOf? arg.name with
  | none => some arg.name
  | some (.text group _) => some group
  | some (.data group dataArg _ _) => if dataArg == arg.name then some group else none

/-- A class whose documentation, and that of whose functions, can be rendered. -/
structure Documented (c : Class) : Prop where
  head : ∃ lines, xmlDocs [] c.docs = .ok lines
  functions : ∀ f ∈ c.functions,
    ∃ lines, xmlDocs ((f.ownArgs c).filterMap (paramName? f)) f.docs = .ok lines

theorem ofSingle_paramName (loader symbol : String) (arg : Argument) :
    (Share.ofSingle enums loader symbol arg).param.map Param.name = some arg.name := by
  rw [Share.ofSingle]
  cases arg.default.map (Default.ofText enums arg) with
  | none => rfl
  | some default => cases default <;> rfl

theorem ofArgument_paramName (loader : String) (f : Function) (arg : Argument) :
    (Share.ofArgument enums loader f arg).param.map Param.name = paramName? f arg := by
  rw [Share.ofArgument, paramName?]
  cases f.groupOf? arg.name with
  | none => exact ofSingle_paramName loader f.symbol arg
  | some group =>
      cases group with
      | text group arg => rfl
      | data group dataArg sizeArg elementType =>
          dsimp only [Share.ofGroup]
          split <;> rfl

/-- Whether a function has a method depends on its documentation alone. -/
theorem exists_methodOf_iff :
    (∃ m, methodOf enums apiName c f = .ok m) ↔
      ∃ lines, xmlDocs ((f.ownArgs c).filterMap (paramName? f)) f.docs = .ok lines := by
  have params : (((f.ownArgs c).map (Share.ofArgument enums (loaderName apiName) f)).filterMap
      Share.param).map Param.name = (f.ownArgs c).filterMap (paramName? f) := by
    rw [List.filterMap_map, List.map_filterMap]
    exact List.filterMap_congr fun arg _ => ofArgument_paramName _ f arg
  rw [← params]
  simp only [methodOf, Outcome.mapError_eq_ok_iff]
  rw [Method.ofFunction, Outcome.exists_bind_ok_iff]
  exact exists_congr fun docs => and_iff_left ⟨_, rfl⟩

/-- A class is written exactly if its documentation can be rendered and its enums are written. -/
theorem exists_ofClass_iff :
    (∃ definition, ClassDefinition.ofClass enums apiName c = .ok definition) ↔
      Documented c ∧
        ∀ e ∈ c.enums, ∃ definition, EnumDefinition.ofEnum enums c.name e = .ok definition := by
  have methods : (∃ methods, c.functions.mapM (methodOf enums apiName c) = .ok methods) ↔
      ∀ f ∈ c.functions,
        ∃ lines, xmlDocs ((f.ownArgs c).filterMap (paramName? f)) f.docs = .ok lines := by
    rw [Outcome.exists_mapM_ok_iff]
    exact forall₂_congr fun f _ => exists_methodOf_iff
  rw [ClassDefinition.ofClass, Outcome.exists_bind_ok_iff, ← Outcome.exists_mapM_ok_iff]
  simp only [Outcome.exists_bind_ok_iff, Outcome.mapError_eq_ok_iff]
  constructor
  · rintro ⟨docs, docsOk, definitions, enumsOk, made, methodsOk, _⟩
    exact ⟨⟨⟨docs, docsOk⟩, methods.mp ⟨made, methodsOk⟩⟩, definitions, enumsOk⟩
  · rintro ⟨⟨⟨docs, docsOk⟩, functions⟩, definitions, enumsOk⟩
    rcases methods.mpr functions with ⟨made, methodsOk⟩
    exact ⟨docs, docsOk, definitions, enumsOk, made, methodsOk, _, rfl⟩

/-- The wrapper is not defined for a class exactly if it is not defined for its enums; the
documentation of the class is rendered before. -/
theorem ofClass_fault_iff {fault : Fault} :
    ClassDefinition.ofClass enums apiName c = .error (.fault fault) ↔
      (∃ lines, xmlDocs [] c.docs = .ok lines) ∧
        c.enums.mapM (EnumDefinition.ofEnum enums c.name) = .error fault := by
  constructor
  · intro failed
    rw [ClassDefinition.ofClass] at failed
    rcases Outcome.bind_eq_error_iff.mp failed with docsFailed | ⟨docs, docsOk, afterDocs⟩
    · rcases Outcome.mapError_eq_error_iff.mp docsFailed with ⟨_, _, ⟨⟩⟩
    refine ⟨⟨docs, Outcome.mapError_eq_ok_iff.mp docsOk⟩, ?_⟩
    rcases Outcome.bind_eq_error_iff.mp afterDocs with enumsFailed | ⟨definitions, _, afterEnums⟩
    · rcases Outcome.mapError_eq_error_iff.mp enumsFailed with ⟨other, enumsFailed, ⟨⟩⟩
      exact enumsFailed
    rcases Outcome.bind_eq_error_iff.mp afterEnums with methodsFailed | ⟨methods, _, impossible⟩
    · rcases Outcome.mapM_eq_error_iff.mp methodsFailed with ⟨_, f, _, _, _, methodFailed⟩
      rcases Outcome.mapError_eq_error_iff.mp methodFailed with ⟨_, _, ⟨⟩⟩
    · cases impossible
  · rintro ⟨⟨docs, docsOk⟩, enumsFailed⟩
    refine Outcome.bind_eq_error_iff.mpr (Or.inr ⟨docs, Outcome.mapError_eq_ok_iff.mpr docsOk, ?_⟩)
    refine Outcome.bind_eq_error_iff.mpr (Or.inl ?_)
    exact Outcome.mapError_eq_error_iff.mpr ⟨fault, enumsFailed, rfl⟩

/-- The lifecycle functions have no documentation. -/
theorem documented_withLifecycle : Documented c.withLifecycle ↔ Documented c := by
  constructor
  · rintro ⟨head, functions⟩
    exact ⟨head, fun f inClass => functions f (List.mem_append_left _ inClass)⟩
  · rintro ⟨head, functions⟩
    refine ⟨head, fun f member => ?_⟩
    rcases List.mem_append.mp member with inClass | inLifecycle
    · exact functions f inClass
    · have bare : f.docs = [] := by
        rw [Class.lifecycle] at inLifecycle
        split at inLifecycle
        · cases inLifecycle
        · simp only [List.mem_cons, List.not_mem_nil, or_false] at inLifecycle
          rcases inLifecycle with rfl | rfl | rfl <;> rfl
      rw [bare]
      exact ⟨[], rfl⟩

end Documentation

/-! ## The outcome of an interface -/

section Interface

variable {api : Api} {options : Options} {fault : Fault}

/-- The lifecycle functions add nothing to the names of the enums. -/
theorem ofApi_withLifecycle (api : Api) :
    EnumTable.ofApi api.withLifecycle = EnumTable.ofApi api := by
  rw [EnumTable.ofApi, EnumTable.ofApi, Api.withLifecycle, List.mapM_map]
  rfl

theorem generate_fault_iff :
    generate api options = .error (.fault fault) ↔
      EnumTable.ofApi api = .error fault ∨
        ∃ table, EnumTable.ofApi api = .ok table ∧
          api.classes.mapM (fun c => ClassDefinition.ofClass table options.apiName c.withLifecycle) =
            .error (.fault fault) := by
  have template (classes : List ClassDefinition) :
      ((Binding.fill options.marker options.preparedTemplate (blocks options.apiName classes)).mapError
        Failure.missingMark) ≠ .error (.fault fault) := by
    intro failed
    rcases Outcome.mapError_eq_error_iff.mp failed with ⟨_, _, ⟨⟩⟩
  have classes : generate api options = .error (.fault fault) ↔
      classesOf api.withLifecycle options.apiName = .error (.fault fault) := by
    rw [generate, Outcome.bind_eq_error_iff, or_iff_left]
    rintro ⟨made, _, failed⟩
    exact template made failed
  rw [classes, classesOf, ofApi_withLifecycle, Outcome.bind_eq_error_iff,
    Outcome.mapError_eq_error_iff]
  simp only [Failure.fault.injEq, exists_eq_right, Outcome.mapError_eq_ok_iff, Api.withLifecycle,
    List.mapM_map]
  rfl

variable {table : EnumTable} {apiName : String}

/-- Where a table is made, a fault is about a constant. -/
theorem fault_of_mapM (made : EnumTable.ofApi api = .ok table)
    (names : (api.classes.map Class.name).Nodup) (wordNamed : ∀ c ∈ api.classes, c.WordNamed)
    (failed : api.classes.mapM (fun c => ClassDefinition.ofClass table apiName c.withLifecycle) =
      .error (.fault fault)) :
    ∃ owner name constant, fault = .unlistedConstant owner name constant := by
  rcases Outcome.mapM_eq_error_iff.mp failed with ⟨_, c, _, split, _, classFailed⟩
  rcases Outcome.mapM_eq_error_iff.mp (ofClass_fault_iff.mp classFailed).2 with
    ⟨before, e, after, enums, _, enumFailed⟩
  have inApi : c ∈ api.classes := by simp [split]
  have declared : c.enums = before ++ e :: after := enums
  have inClass : e ∈ c.enums := by simp [declared]
  exact ⟨_, _, definition_error made names wordNamed inApi inClass enumFailed⟩

/-- Classes that are written one after the other end in a fault where constants are hidden. -/
theorem mapM_fault_iff (made : EnumTable.ofApi api = .ok table)
    (names : (api.classes.map Class.name).Nodup) (wordNamed : ∀ c ∈ api.classes, c.WordNamed)
    (constants : (api.classes.flatMap Class.constantNames).Nodup) :
    (∃ owner name constant,
      api.classes.mapM (fun c => ClassDefinition.ofClass table apiName c.withLifecycle) =
        .error (.fault (.unlistedConstant owner name constant))) ↔
      ∃ before c after, api.classes = before ++ c :: after ∧
        (∀ earlier ∈ before, Documented earlier ∧ KeepsConstants earlier) ∧
        (∃ lines, xmlDocs [] c.docs = .ok lines) ∧ ¬ KeepsConstants c := by
  have keeps (c : Class) (inApi : c ∈ api.classes) :
      (∀ e ∈ c.enums, ∃ definition, EnumDefinition.ofEnum table c.name e = .ok definition) ↔
        KeepsConstants c :=
    exists_definitions_iff made names wordNamed inApi ((List.nodup_flatMap.mp constants).1 c inApi)
  have written (c : Class) (inApi : c ∈ api.classes) :
      (∃ definition, ClassDefinition.ofClass table apiName c.withLifecycle = .ok definition) ↔
        Documented c ∧ KeepsConstants c := by
    rw [exists_ofClass_iff, documented_withLifecycle]
    exact and_congr_right fun _ => keeps c inApi
  constructor
  · rintro ⟨owner, name, constant, failed⟩
    rcases Outcome.mapM_eq_error_iff.mp failed with ⟨before, c, after, split, succeeded, faulty⟩
    rcases ofClass_fault_iff.mp faulty with ⟨head, enumsFailed⟩
    have inApi (d : Class) (member : d ∈ before ++ c :: after) : d ∈ api.classes := split ▸ member
    refine ⟨before, c, after, split, fun earlier member => ?_, head, fun kept => ?_⟩
    · exact (written earlier (inApi earlier (List.mem_append_left _ member))).mp
        (succeeded earlier member)
    · have each := (keeps c (inApi c (by simp))).mpr kept
      exact Outcome.exists_error_iff.mp ⟨_, enumsFailed⟩ (Outcome.exists_mapM_ok_iff.mpr each)
  · rintro ⟨before, c, after, split, succeeded, head, hidden⟩
    have inApi (d : Class) (member : d ∈ before ++ c :: after) : d ∈ api.classes := split ▸ member
    have failed : ¬ ∃ definitions, c.enums.mapM (EnumDefinition.ofEnum table c.name) =
        .ok definitions := by
      rw [Outcome.exists_mapM_ok_iff, keeps c (inApi c (by simp))]
      exact hidden
    rcases Outcome.exists_error_iff.mpr failed with ⟨fault, enumsFailed⟩
    rcases Outcome.mapM_eq_error_iff.mp enumsFailed with ⟨_, e, _, enums, _, enumFailed⟩
    rcases definition_error made names wordNamed (inApi c (by simp)) (by simp [enums]) enumFailed
      with ⟨constant, rfl⟩
    refine ⟨c.name, e.name, constant, Outcome.mapM_eq_error_iff.mpr
      ⟨before, c, after, split, fun earlier member => ?_, ?_⟩⟩
    · exact (written earlier (inApi earlier (List.mem_append_left _ member))).mpr
        (succeeded earlier member)
    · exact ofClass_fault_iff.mpr ⟨head, enumsFailed⟩

end Interface

end Managed

/-- Where the managed wrapper of an interface is not defined. -/
structure Api.ManagedFaults (api : Api) (options : Managed.Options) : Prop where
  /-- The constants of some enum part inside a character. -/
  splitCharacter :
    (∃ owner name, Managed.generate api options = .error (.fault (.splitCharacter owner name))) ↔
      ∃ c ∈ api.classes, ∃ e ∈ c.enums, Managed.PartsInsideCharacter e
  /-- Every enum is found. -/
  unlistedEnum : ∀ owner name,
    Managed.generate api options ≠ .error (.fault (.unlistedEnum owner name))
  /-- Below classes that are written, an enum with constants comes before one of its name. -/
  unlistedConstant :
    (∃ owner name constant,
      Managed.generate api options = .error (.fault (.unlistedConstant owner name constant))) ↔
      (∀ c ∈ api.classes, ∀ e ∈ c.enums, ¬ Managed.PartsInsideCharacter e) ∧
        ∃ before c after, api.classes = before ++ c :: after ∧
          (∀ earlier ∈ before, Managed.Documented earlier ∧ Managed.KeepsConstants earlier) ∧
          (∃ lines, Managed.xmlDocs [] c.docs = .ok lines) ∧ ¬ Managed.KeepsConstants c

/-- Whatever the options and the headers are, the managed wrapper of an interface that is accepted
is a text or a failure with a message, up to the enums that have no names. -/
theorem extract_managedFaults
    (options : Header.Options) (sources : List HeaderSource) (api : Api)
    (accepted : (extract options sources).result = .ok api) (wrapper : Managed.Options) :
    api.ManagedFaults wrapper := by
  have names := accepted_names accepted
  have wordNamed := accepted_wordNamed accepted
  have constants := accepted_constants accepted
  constructor
  case splitCharacter =>
    constructor
    · rintro ⟨owner, name, failed⟩
      rcases Managed.generate_fault_iff.mp failed with tableFailed | ⟨table, made, classFailed⟩
      · rcases Managed.ofApi_error tableFailed with ⟨c, inApi, e, inClass, parts, _⟩
        exact ⟨c, inApi, e, inClass, parts⟩
      · rcases Managed.fault_of_mapM made names wordNamed classFailed with ⟨_, _, _, ⟨⟩⟩
    · rintro ⟨c, inApi, e, inClass, parts⟩
      have failed : ¬ ∃ table, Managed.EnumTable.ofApi api = .ok table :=
        fun ⟨table, made⟩ => Managed.whole_of_ofApi made inApi inClass parts
      rcases Outcome.exists_error_iff.mpr failed with ⟨fault, tableFailed⟩
      rcases Managed.ofApi_error tableFailed with ⟨d, _, f, _, _, rfl⟩
      exact ⟨d.name, f.name, Managed.generate_fault_iff.mpr (Or.inl tableFailed)⟩
  case unlistedEnum =>
    intro owner name failed
    rcases Managed.generate_fault_iff.mp failed with tableFailed | ⟨table, made, classFailed⟩
    · rcases Managed.ofApi_error tableFailed with ⟨_, _, _, _, _, ⟨⟩⟩
    · rcases Managed.fault_of_mapM made names wordNamed classFailed with ⟨_, _, _, ⟨⟩⟩
  case unlistedConstant =>
    constructor
    · rintro ⟨owner, name, constant, failed⟩
      rcases Managed.generate_fault_iff.mp failed with tableFailed | ⟨table, made, classFailed⟩
      · rcases Managed.ofApi_error tableFailed with ⟨_, _, _, _, _, ⟨⟩⟩
      · refine ⟨fun c inApi e inClass => Managed.whole_of_ofApi made inApi inClass, ?_⟩
        exact (Managed.mapM_fault_iff made names wordNamed constants).mp
          ⟨owner, name, constant, classFailed⟩
    · rintro ⟨whole, hidden⟩
      cases made : Managed.EnumTable.ofApi api with
      | error fault =>
          rcases Managed.ofApi_error made with ⟨c, inApi, e, inClass, parts, _⟩
          exact absurd parts (whole c inApi e inClass)
      | ok table =>
          rcases (Managed.mapM_fault_iff made names wordNamed constants).mpr hidden with
            ⟨owner, name, constant, failed⟩
          exact ⟨owner, name, constant,
            Managed.generate_fault_iff.mpr (Or.inr ⟨table, made, failed⟩)⟩

/-- An enum whose constants agree on the first of two bytes. -/
def accentedHeader : HeaderSource :=
  { name := "a.h"
    text := "NAPI_CLASS_SINGLETON class A\nNAPI_ENUM enum M : int\x7bé, è\x7d;" }

def accentedApi : Api :=
  { classes := [
      { name := "A"
        kind := .singleton
        enums := [{ name := "M", underlying := "int", constants := [⟨"é", "0"⟩, ⟨"è", "1"⟩] }] }] }

theorem extract_accentedHeader :
    (extract {} [accentedHeader]).result = .ok accentedApi := by
  decide +kernel

theorem accentedApi_managedFaults :
    (extract {} [accentedHeader]).result = .ok accentedApi ∧
      accentedApi.ManagedFaults ⟨"", "", "lib", false⟩ ∧
      Managed.generate accentedApi ⟨"", "", "lib", false⟩ =
        .error (.fault (.splitCharacter "A" "M")) :=
  ⟨extract_accentedHeader,
    extract_managedFaults {} [accentedHeader] accentedApi extract_accentedHeader _,
    Managed.generate_fault_iff.mpr (Or.inl (by decide +kernel))⟩

/-- The first one of two enums of one name is not written. -/
example :
    Managed.generate
      { classes := [
          { name := "A"
            kind := .singleton
            enums := [
              { name := "M", underlying := "int", constants := [⟨"X", "0"⟩] },
              { name := "M", underlying := "int", constants := [⟨"Y", "0"⟩] }] }] }
      ⟨"", "", "lib", false⟩ = .error (.fault (.unlistedConstant "A" "M" "X")) := by
  decide +kernel

/-- The managed wrapper of an accepted interface is not always defined. -/
theorem generate_not_always_defined :
    ¬ ∀ (options : Header.Options) (sources : List HeaderSource) (api : Api),
      (extract options sources).result = .ok api →
        ∀ (wrapper : Managed.Options) (fault : Managed.Fault),
          Managed.generate api wrapper ≠ .error (.fault fault) := by
  intro always
  have defined := always {} [accentedHeader] accentedApi extract_accentedHeader
    ⟨"", "", "lib", false⟩ (.splitCharacter "A" "M")
  exact defined (Managed.generate_fault_iff.mpr (Or.inl (by decide +kernel)))

end HeaderBindings
