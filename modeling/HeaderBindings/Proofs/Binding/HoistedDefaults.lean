import HeaderBindings.Proofs.Binding.BinaryInterface
import HeaderBindings.Proofs.Binding.EnumMembers
import HeaderBindings.Proofs.Binding.JoinedNames

/-!
# Hoisted defaults

A default that is no constant in C# becomes a field of the loader, and a method
passes the field where its parameter is null.  The field holds the default of
that very parameter, but it is named after the exported symbol and the
parameter, joined by an underscore.  So it is the only one of its name exactly
if no function repeats the name of such a parameter, functions of one symbol
have none in common, and no symbol continues another one together with the name
of a parameter.
-/

namespace HeaderBindings

namespace Managed

/-! ## The default of an argument -/

section Argument

/-- Whether the default of an argument becomes a field. -/
def isHoisted (enums : EnumTable) (f : Function) (arg : Argument) : Bool :=
  (f.groupOf? arg.name).isNone &&
    match arg.default.map (Default.ofText enums arg) with
    | some (.hoisted _ _) => true
    | _ => false

/-- The field that is meant for the default of an argument. -/
def fieldOf (f : Function) (arg : Argument) (default : String) : Field where
  type := visibleType arg.type arg.typeClass
  name := f.symbol ++ "_" ++ arg.name
  value := expression (Text.trim default)

/-- What an argument adds to a method: the field of its own default and a reference to that field, or
neither. -/
inductive OwnDefault (enums : EnumTable) (loader : String) (f : Function) (arg : Argument)
    (share : Share) : Prop where
  | hoisted (default : String) (field : Field)
      (hoists : isHoisted enums f arg = true)
      (written : arg.default = some default)
      (isField : field = fieldOf f arg default)
      (declared : share.field = some field)
      (passed : share.passed = pass arg s!"({arg.name} ?? {loader}.{field.name})")
  | kept
      (keeps : isHoisted enums f arg = false)
      (undeclared : share.field = none)
      (passed : share.passed = pass arg arg.name ∨
        ∃ group, f.groupOf? arg.name = some group ∧ share = .ofGroup arg.name group)

variable (enums : EnumTable) (loader : String) (f : Function) (arg : Argument)

/-- A default that is hoisted is an expression in the type of its argument. -/
theorem ofText_hoisted {value type text : String}
    (hoisted : Default.ofText enums arg value = .hoisted type text) :
    type = visibleType arg.type arg.typeClass ∧ text = expression (Text.trim value) := by
  rw [Default.ofText] at hoisted
  split at hoisted
  · cases hoisted
  · split at hoisted
    · cases hoisted
    · split at hoisted
      · cases hoisted
      · split at hoisted
        · cases hoisted
        · cases hoisted
          exact ⟨rfl, rfl⟩

variable {enums loader f arg}

theorem isHoisted_iff : isHoisted enums f arg = true ↔
    f.groupOf? arg.name = none ∧ ∃ default type text,
      arg.default = some default ∧ Default.ofText enums arg default = .hoisted type text := by
  rw [isHoisted, Bool.and_eq_true, Option.isNone_iff_eq_none]
  refine and_congr_right fun _ => ?_
  cases arg.default with
  | none => simp
  | some default =>
      cases value : Default.ofText enums arg default <;> simp [value]

theorem ofSingle_hoisted {default type text : String} (written : arg.default = some default)
    (hoisted : Default.ofText enums arg default = .hoisted type text) :
    (Share.ofSingle enums loader f.symbol arg).field = some (fieldOf f arg default) ∧
      (Share.ofSingle enums loader f.symbol arg).passed =
        pass arg s!"({arg.name} ?? {loader}.{(fieldOf f arg default).name})" := by
  rcases ofText_hoisted enums arg hoisted with ⟨rfl, rfl⟩
  rw [Share.ofSingle, written, Option.map_some, hoisted]
  exact ⟨rfl, rfl⟩

theorem ofSingle_kept (alone : f.groupOf? arg.name = none) (keeps : isHoisted enums f arg = false) :
    (Share.ofSingle enums loader f.symbol arg).field = none ∧
      (Share.ofSingle enums loader f.symbol arg).passed = pass arg arg.name := by
  rw [isHoisted, alone] at keeps
  rw [Share.ofSingle]
  cases value : arg.default.map (Default.ofText enums arg) with
  | none => exact ⟨rfl, rfl⟩
  | some default =>
      cases default with
      | constant text => exact ⟨rfl, rfl⟩
      | hoisted type text =>
          rw [value] at keeps
          cases keeps

theorem ofGroup_field (name : String) (group : ArrayGroup) : (Share.ofGroup name group).field = none := by
  cases group with
  | text base arg => rfl
  | data base dataArg sizeArg elementType =>
      rw [Share.ofGroup]
      split <;> rfl

/-- Every argument refers to the field of its own default. -/
theorem ofArgument_ownDefault :
    OwnDefault enums loader f arg (Share.ofArgument enums loader f arg) := by
  rw [Share.ofArgument]
  cases hoists : isHoisted enums f arg with
  | true =>
      rcases isHoisted_iff.mp hoists with ⟨alone, default, type, text, written, hoisted⟩
      rcases @ofSingle_hoisted enums loader f arg _ _ _ written hoisted with ⟨declared, passed⟩
      rw [alone]
      exact .hoisted default _ hoists written rfl declared passed
  | false =>
      cases group : f.groupOf? arg.name with
      | none =>
          rcases ofSingle_kept group hoists with ⟨undeclared, passed⟩
          exact .kept hoists undeclared (Or.inl passed)
      | some members => exact .kept hoists (ofGroup_field _ _) (Or.inr ⟨members, group, rfl⟩)

end Argument

/-! ## The fields of a function -/

/-- The names of the parameters of a function of a class whose defaults are hoisted. -/
def hoistedNames (enums : EnumTable) (owned : Class × Function) : List String :=
  ((owned.2.ownArgs owned.1).filter (isHoisted enums owned.2)).map Argument.name

/-- The names that are generated for the fields of a function of a class. -/
def fieldNames (enums : EnumTable) : Class × Function → List String :=
  joinedNames (fun owned => owned.2.symbol) (hoistedNames enums)

/-- The fields of some classes, in the order in which they are declared. -/
def fieldsOf (classes : List ClassDefinition) : List Field :=
  classes.flatMap fun c => c.methods.flatMap Method.fields

section Methods

variable {enums : EnumTable} {apiName : String} {c : Class} {f : Function} {m : Method}

theorem ofFunction_ownDefaults (made : Method.ofFunction enums apiName c f = .ok m) :
    List.Forall₂ (OwnDefault enums (loaderName apiName) f) (f.ownArgs c) m.shares := by
  rcases ofFunction_ok made with ⟨_, shares, _⟩
  have ownShares : m.shares =
      (f.ownArgs c).map (Share.ofArgument enums (loaderName apiName) f) := shares
  rw [ownShares, List.forall₂_map_right_iff]
  exact List.forall₂_same.mpr fun arg _ => ofArgument_ownDefault

theorem shares_fieldNames {loader : String} {args : List Argument} {shares : List Share}
    (own : List.Forall₂ (OwnDefault enums loader f) args shares) :
    (shares.filterMap Share.field).map Field.name =
      ((args.filter (isHoisted enums f)).map Argument.name).map fun name =>
        f.symbol ++ "_" ++ name := by
  induction own with
  | nil => rfl
  | @cons arg share args shares first rest ih =>
      cases first with
      | hoisted default field hoists written isField declared passed =>
          rw [List.filterMap_cons_some declared, List.filter_cons_of_pos hoists, List.map_cons,
            List.map_cons, List.map_cons, ih, isField]
          rfl
      | kept keeps undeclared passed =>
          rw [List.filterMap_cons_none undeclared,
            List.filter_cons_of_neg (Bool.eq_false_iff.mp keeps), ih]

theorem ofFunction_fieldNames (made : Method.ofFunction enums apiName c f = .ok m) :
    m.fields.map Field.name = fieldNames enums (c, f) :=
  shares_fieldNames (ofFunction_ownDefaults made)

/-- The functions that manage the instances of a class have no defaults. -/
theorem lifecycle_fieldNames (member : f ∈ c.lifecycle) : fieldNames enums (c, f) = [] := by
  rcases lifecycle_shape member with ⟨isPrivate, args, _, _⟩
  have own : f.ownArgs c = f.args := by
    rw [Function.ownArgs, Function.isMember, isPrivate]
    simp
  have bare : isHoisted enums f .receiver = false := by
    apply Bool.eq_false_iff.mpr
    intro hoists
    rcases isHoisted_iff.mp hoists with ⟨_, _, _, _, ⟨⟩, _⟩
  have none : hoistedNames enums (c, f) = [] := by
    rw [hoistedNames, own]
    rcases args with empty | receiver
    · rw [empty]
      rfl
    · rw [receiver, List.filter_cons_of_neg (Bool.eq_false_iff.mp bare)]
      rfl
  rw [fieldNames, joinedNames, none]
  rfl

/-- The fields of a class are those of its declared functions. -/
theorem ofClass_fieldNames {definition : ClassDefinition}
    (written : ClassDefinition.ofClass enums apiName c.withLifecycle = .ok definition) :
    (definition.methods.flatMap Method.fields).map Field.name =
      (c.functions.map fun f => (c, f)).flatMap (fieldNames enums) := by
  have methods : (definition.methods.flatMap fun m => m.fields.map Field.name) =
      (c.functions ++ c.lifecycle).flatMap fun f => fieldNames enums (c, f) :=
    Related.flatMap_eq (fun f m made => ofFunction_fieldNames made) (ofClass_methods written)
  have lifecycle : (c.lifecycle.flatMap fun f => fieldNames enums (c, f)) = [] :=
    List.flatMap_eq_nil_iff.mpr fun f member => lifecycle_fieldNames member
  rw [List.map_flatMap, methods, List.flatMap_append, lifecycle, List.append_nil, List.flatMap_map]

end Methods

/-! ## All fields -/

/-- Every function of some classes with its class. -/
def ownedFunctions (classes : List Class) : List (Class × Function) :=
  classes.flatMap fun c => c.functions.map fun f => (c, f)

/-- The hoisted defaults of some functions have different names. -/
structure DistinctDefaults (enums : EnumTable) (functions : List (Class × Function)) : Prop where
  within : ∀ owned ∈ functions, (hoistedNames enums owned).Nodup
  /-- Functions of one symbol hoist defaults of different parameters. -/
  sameSymbol : functions.Pairwise fun first second =>
    first.2.symbol = second.2.symbol →
      (hoistedNames enums first).Disjoint (hoistedNames enums second)
  /-- Where one symbol continues another one, no parameter of the shorter one continues in the same
  way. -/
  across : ∀ short ∈ functions, ∀ long ∈ functions, ∀ middle,
    long.2.symbol = short.2.symbol ++ "_" ++ middle →
      ∀ name ∈ hoistedNames enums long, middle ++ "_" ++ name ∉ hoistedNames enums short

theorem distinctDefaults_iff {enums : EnumTable} {functions : List (Class × Function)} :
    (functions.flatMap (fieldNames enums)).Nodup ↔ DistinctDefaults enums functions := by
  have names : functions.flatMap (fieldNames enums) =
      functions.flatMap (joinedNames (fun owned => owned.2.symbol) (hoistedNames enums)) := rfl
  rw [names, nodup_joinedNames_iff]
  constructor
  · rintro ⟨within, sameSymbol, across⟩
    exact ⟨within, sameSymbol, across⟩
  · rintro ⟨within, sameSymbol, across⟩
    exact ⟨within, sameSymbol, across⟩

end Managed

/-- The hoisted defaults in a managed wrapper of an interface. -/
structure Api.DefaultsHoisted (api : Api) (enums : Managed.EnumTable) (apiName : String)
    (classes : List Managed.ClassDefinition) : Prop where
  /-- The block of the default values declares the fields of all methods. -/
  block : Binding.linesOf (Managed.blocks apiName classes) "_API_DEFAULT_VALUES" =
    (Managed.fieldsOf classes).map fun field => Binding.indented "    " field.text
  /-- Every argument of a method that refers to a field has its own default in it. -/
  own : List.Forall₂ (fun c definition =>
    List.Forall₂ (fun f m =>
      List.Forall₂ (Managed.OwnDefault enums (Managed.loaderName apiName) f) (f.ownArgs c) m.shares)
      c.withLifecycle.functions definition.methods) api.classes classes
  declaredOnce :
    (∀ field ∈ Managed.fieldsOf classes,
      ((Managed.fieldsOf classes).map Managed.Field.name).count field.name = 1) ↔
      Managed.DistinctDefaults enums (Managed.ownedFunctions api.classes)

/-- In every managed wrapper, a method passes its own defaults, and their fields are declared once up
to the names in which an underscore is read at two places. -/
theorem Api.defaultsHoisted (api : Api) (apiName : String) (classes : List Managed.ClassDefinition)
    (written : Managed.classesOf api.withLifecycle apiName = .ok classes) :
    ∃ enums, Managed.EnumTable.ofApi api = .ok enums ∧
      api.DefaultsHoisted enums apiName classes := by
  rcases Managed.written_classes written with ⟨enums, made, related⟩
  refine ⟨enums, made, ?_⟩
  constructor
  case block => simp [Binding.linesOf, Managed.blocks, Managed.fieldsOf]
  case own =>
    refine related.imp fun c definition classWritten => ?_
    exact (Managed.ofClass_methods classWritten).imp fun f m => Managed.ofFunction_ownDefaults
  case declaredOnce =>
    have names : (Managed.fieldsOf classes).map Managed.Field.name =
        (Managed.ownedFunctions api.classes).flatMap (Managed.fieldNames enums) := by
      rw [Managed.fieldsOf, List.map_flatMap, Managed.ownedFunctions, List.flatMap_assoc]
      exact Related.flatMap_eq (fun c definition => Managed.ofClass_fieldNames) related
    rw [← Managed.distinctDefaults_iff, ← names, List.nodup_iff_count_eq_one, List.forall_mem_map]

/-- The name of one function continues that of another one as the names of the parameters do. -/
def overlappingHeader : HeaderSource :=
  { name := "a.h"
    text :=
      "NAPI_CLASS_SINGLETON class A\nNAPI void f(Vector3 b_p = Vector3(1, 0, 0));\n" ++
        "NAPI void f_b(Vector3 p = Vector3(2, 0, 0));" }

/-- A function of `overlappingApi` with a vector as its parameter. -/
def vectorFunction (name param default : String) : Function where
  name := name
  symbol := "A_" ++ name
  args := [
    { name := param
      type := "Vector3"
      abiType := "Vector3"
      default := some default
      typeClass := .basicValue "Vector3" }]
  result := .void

def overlappingApi : Api :=
  { classes := [
      { name := "A"
        kind := .singleton
        functions := [
          vectorFunction "f" "b_p" "Vector3(1, 0, 0)",
          vectorFunction "f_b" "p" "Vector3(2, 0, 0)"] }] }

theorem extract_overlappingHeader :
    (extract {} [overlappingHeader]).result = .ok overlappingApi := by
  decide +kernel

theorem fieldsOf_overlappingApi :
    (Managed.classesOf overlappingApi.withLifecycle "lib").map Managed.fieldsOf = .ok [
      ⟨"Vector3", "A_f_b_p", "new Vector3(1, 0, 0)"⟩,
      ⟨"Vector3", "A_f_b_p", "new Vector3(2, 0, 0)"⟩] := by
  decide +kernel

theorem overlappingApi_defaultsHoisted :
    (extract {} [overlappingHeader]).result = .ok overlappingApi ∧
      ∃ classes, Managed.classesOf overlappingApi.withLifecycle "lib" = .ok classes ∧
        ∃ enums, Managed.EnumTable.ofApi overlappingApi = .ok enums ∧
          overlappingApi.DefaultsHoisted enums "lib" classes := by
  rcases Outcome.map_eq_ok_iff.mp fieldsOf_overlappingApi with ⟨classes, written, _⟩
  exact ⟨extract_overlappingHeader, classes, written,
    overlappingApi.defaultsHoisted "lib" classes written⟩

/-- The fields of hoisted defaults are not always declared once. -/
theorem defaults_not_always_declared_once :
    ¬ ∀ (options : Header.Options) (sources : List HeaderSource) (api : Api),
      (extract options sources).result = .ok api →
        ∀ apiName classes, Managed.classesOf api.withLifecycle apiName = .ok classes →
          ∀ field ∈ Managed.fieldsOf classes,
            ((Managed.fieldsOf classes).map Managed.Field.name).count field.name = 1 := by
  intro always
  rcases Outcome.map_eq_ok_iff.mp fieldsOf_overlappingApi with ⟨classes, written, fields⟩
  have once := always {} [overlappingHeader] overlappingApi extract_overlappingHeader "lib" classes
    written
  rw [fields] at once
  exact absurd once (by decide)

end HeaderBindings
