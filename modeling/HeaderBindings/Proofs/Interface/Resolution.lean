import HeaderBindings.Proofs.Interface.Declared
import HeaderBindings.Proofs.Interface.EnumIndex
import HeaderBindings.Proofs.Related

/-!
# What resolution changes

Four steps make up the resolution of an interface.  Between them they change
the documentation of a function, the class and the boundary type of its
arguments and of its result, and the properties of a class, and nothing else.
Each changed part is a function of the declared one, the exposed names and the
index of the enums; the main theorem relates the classes before and after in
this way.
-/

namespace HeaderBindings

namespace Resolve

/-! ## The types of a function -/

/-- An argument with the class that its type has once the enums are known. -/
def typedArgument (exposed : List String) (index : EnumIndex) (f : Function) (arg : Argument) :
    Argument :=
  (attachArgument index f.symbol (classifyArgument exposed f arg).1).1

/-- The result of a function with the class that its type has once the enums are known. -/
def typedResult (exposed : List String) (index : EnumIndex) (f : Function) : Return :=
  (attachResult index f.symbol (classifyResult exposed f).1).1

/-- A function with the classes that its types have once the enums are known. -/
def typedFunction (exposed : List String) (index : EnumIndex) (f : Function) : Function :=
  { f with
    args := f.args.map (typedArgument exposed index f)
    result := typedResult exposed index f }

theorem attachFunction_classifyFunction
    (exposed : List String) (index : EnumIndex) (f : Function) :
    (attachFunction index (classifyFunction exposed f).1).1 = typedFunction exposed index f := by
  simp only [attachFunction, classifyFunction, typedFunction, List.map_map]
  rfl

/-- Without enums no type names one. -/
theorem attachFunction_nil (f : Function) : (attachFunction [] f).1 = f := by
  have argument (arg : Argument) : (attachArgument [] f.symbol arg).1 = arg := by
    rw [attachArgument]
    split <;> rfl
  have result : (attachResult [] f.symbol f.result).1 = f.result := by
    rw [attachResult]
    split <;> rfl
  simp only [attachFunction, List.map_map, result]
  have args : f.args.map (Prod.fst ∘ attachArgument [] f.symbol) = f.args := by
    calc
      f.args.map (Prod.fst ∘ attachArgument [] f.symbol) = f.args.map id :=
        List.map_congr_left fun arg _ => argument arg
      _ = f.args := List.map_id _
  rw [args]

theorem attachClass_eq (index : EnumIndex) (c : Class) :
    (attachClass index c).1 =
      { c with functions := c.functions.map fun f => (attachFunction index f).1 } := by
  rw [attachClass]
  split
  · rename_i empty
    rw [List.isEmpty_iff.mp empty]
    simp [attachFunction_nil]
  · simp only [List.map_map]
    rfl

/-- The receiver of a method is not typed. -/
theorem typedArgument_receiver
    {exposed : List String} {index : EnumIndex} {f : Function} {arg : Argument}
    (receiver : arg.isInstance = true) :
    typedArgument exposed index f arg = arg := by
  simp [typedArgument, classifyArgument, attachArgument, receiver]

/-- Typing an argument keeps all but its class and its boundary type. -/
theorem typedArgument_fields
    (exposed : List String) (index : EnumIndex) (f : Function) (arg : Argument) :
    ∃ typeClass abiType,
      typedArgument exposed index f arg = { arg with typeClass, abiType } := by
  have classified : ∃ typeClass abiType,
      (classifyArgument exposed f arg).1 = { arg with typeClass, abiType } := by
    rw [classifyArgument]
    split
    · exact ⟨_, _, rfl⟩
    · exact ⟨_, _, rfl⟩
  rcases classified with ⟨typeClass, abiType, equal⟩
  rw [typedArgument, equal, attachArgument]
  split
  · split
    · exact ⟨_, _, rfl⟩
    · exact ⟨_, _, rfl⟩
  · exact ⟨_, _, rfl⟩

section Fields

variable (exposed : List String) (index : EnumIndex) (f : Function) (arg : Argument)

@[simp]
theorem typedArgument_name : (typedArgument exposed index f arg).name = arg.name := by
  rcases typedArgument_fields exposed index f arg with ⟨_, _, equal⟩
  rw [equal]

@[simp]
theorem typedArgument_type : (typedArgument exposed index f arg).type = arg.type := by
  rcases typedArgument_fields exposed index f arg with ⟨_, _, equal⟩
  rw [equal]

@[simp]
theorem typedArgument_isInstance :
    (typedArgument exposed index f arg).isInstance = arg.isInstance := by
  rcases typedArgument_fields exposed index f arg with ⟨_, _, equal⟩
  rw [equal]

/-- Typing a result keeps its type. -/
@[simp]
theorem typedResult_type : (typedResult exposed index f).type = f.result.type := by
  have classified : (classifyResult exposed f).1.type = f.result.type := by
    rw [classifyResult]
    split
    · rfl
    · rfl
  rw [typedResult, attachResult]
  split
  · split
    · exact classified
    · exact classified
  · exact classified

end Fields

/-! ## Borrowed documentation -/

/-- A function that differs from a declared one in its documentation at most. -/
def Documented (declared documented : Function) : Prop :=
  ∃ docs, documented = { declared with docs }

theorem Documented.refl (f : Function) : Documented f f :=
  ⟨f.docs, rfl⟩

/-- Borrowing goes through the functions in order and leaves the settled ones alone. -/
theorem borrowDocs_documented
    (owner : Class) (settled functions : List Function) :
    ∃ documented,
      (borrowDocs owner settled functions).1 = settled ++ documented ∧
      List.Forall₂ Documented functions documented := by
  induction functions generalizing settled with
  | nil => exact ⟨[], by simp [borrowDocs], .nil⟩
  | cons f rest ih =>
      have step (changed : Function) (document : Documented f changed) :
          ∃ documented,
            (borrowDocs owner (settled ++ [changed]) rest).1 = settled ++ documented ∧
            List.Forall₂ Documented (f :: rest) documented := by
        rcases ih (settled ++ [changed]) with ⟨documented, equal, related⟩
        exact ⟨changed :: documented, by simp [equal], .cons document related⟩
      rw [borrowDocs]
      split
      · exact step f (.refl f)
      · split
        · rename_i docs _
          exact step { f with docs } ⟨docs, rfl⟩
        · exact step f (.refl f)

/-- Of its function, the class of an argument depends on the groups only. -/
theorem classifyArgument_congr
    {exposed : List String} {left right : Function} {arg : Argument}
    (groups : left.arrayGroups = right.arrayGroups) :
    classifyArgument exposed left arg = classifyArgument exposed right arg := by
  rw [classifyArgument, classifyArgument, Function.groupOf?, Function.groupOf?, groups]

/-- Documentation has no part in the typing of a function. -/
theorem typedFunction_documented
    (exposed : List String) (index : EnumIndex) {declared documented : Function}
    (document : Documented declared documented) :
    Documented (typedFunction exposed index declared) (typedFunction exposed index documented) := by
  rcases document with ⟨docs, equal⟩
  have argument (arg : Argument) :
      typedArgument exposed index { declared with docs } arg =
        typedArgument exposed index declared arg := by
    have classified :
        classifyArgument exposed { declared with docs } arg =
          classifyArgument exposed declared arg :=
      classifyArgument_congr rfl
    rw [typedArgument, typedArgument, classified]
  have result : typedResult exposed index { declared with docs } =
      typedResult exposed index declared := by
    rw [typedResult, typedResult, classifyResult, classifyResult]
  refine ⟨docs, ?_⟩
  rw [equal, typedFunction, typedFunction, result, funext argument]

/-! ## Classes -/

/-- A declared function together with what resolution makes of it. -/
def ResolvedFunction (exposed : List String) (index : EnumIndex)
    (declared resolved : Function) : Prop :=
  Documented (typedFunction exposed index declared) resolved

/-- A declared class together with what resolution makes of it. -/
structure ResolvedClass (exposed : List String) (index : EnumIndex)
    (declared resolved : Class) : Prop where
  name : resolved.name = declared.name
  kind : resolved.kind = declared.kind
  enums : resolved.enums = declared.enums
  functions :
    List.Forall₂ (ResolvedFunction exposed index) declared.functions resolved.functions
  properties : resolved.properties = properties resolved

/-- The steps of the resolution on one class. -/
def resolveClass (exposed : List String) (index : EnumIndex) (c : Class) : Class :=
  let attached := (attachClass index (classifyClass exposed (resolveDocs c).1).1).1
  { attached with properties := properties attached }

/-- The functions of a class borrow their documentation before their types are classified. -/
theorem attachClass_resolveDocs (exposed : List String) (index : EnumIndex) (c : Class) :
    (attachClass index (classifyClass exposed (resolveDocs c).1).1).1 =
      { c with
        functions := (borrowDocs c [] c.functions).1.map (typedFunction exposed index) } := by
  rw [attachClass_eq]
  simp only [classifyClass, resolveDocs, List.map_map]
  congr 1
  apply List.map_congr_left
  intro f _
  exact attachFunction_classifyFunction exposed index f

theorem resolveClass_functions (exposed : List String) (index : EnumIndex) (c : Class) :
    (resolveClass exposed index c).functions =
      (borrowDocs c [] c.functions).1.map (typedFunction exposed index) := by
  rw [resolveClass, attachClass_resolveDocs]

theorem resolveClass_resolved (exposed : List String) (index : EnumIndex) (c : Class) :
    ResolvedClass exposed index c (resolveClass exposed index c) := by
  rcases borrowDocs_documented c [] c.functions with ⟨documented, equal, related⟩
  rw [resolveClass, attachClass_resolveDocs, equal, List.nil_append]
  constructor
  · rfl
  · rfl
  · rfl
  · rw [List.forall₂_map_right_iff]
    exact related.imp fun _ _ document => typedFunction_documented exposed index document
  · rfl

/-! ## The interface -/

theorem onClasses_classes (step : Class → Class × List Notice) (api : Api) :
    (onClasses step api).1.classes = api.classes.map fun c => (step c).1 := by
  simp [onClasses, Function.comp_def]

/-- Neither documentation nor the classes of types touch the enums. -/
theorem ownedEnums_classified (exposed : List String) (classes : List Class) :
    ownedEnums (classes.map fun c => (classifyClass exposed (resolveDocs c).1).1) =
      ownedEnums classes := by
  rw [ownedEnums, List.flatMap_map]
  rfl

/-- What the steps before the enums leave of the classes. -/
theorem classified_classes (api : Api) :
    (onClasses (classifyClass (exposedNames api)) (onClasses resolveDocs api).1).1.classes =
      api.classes.map fun c => (classifyClass (exposedNames api) (resolveDocs c).1).1 := by
  rw [onClasses_classes, onClasses_classes, List.map_map]
  rfl

/-- Resolving changes every class by itself, given the exposed names and the index of the enums. -/
theorem resolve_distinct {api : Api} (distinct : DistinctConstants api.classes) :
    (resolve api).failure = none ∧
      (resolve api).api.classes =
        api.classes.map (resolveClass (exposedNames api) (enumIndex api.classes)) := by
  have indexed : indexEnums [] [] (declaredEnums
      (onClasses (classifyClass (exposedNames api)) (onClasses resolveDocs api).1).1.classes) =
        .ok (enumIndex api.classes) := by
    rw [indexEnums_eq_ok_iff, classified_classes, DistinctConstants, enumIndex, enumIndex,
      ownedEnums_classified]
    exact ⟨distinct, rfl⟩
  simp only [resolve, indexed, true_and]
  rw [onClasses_classes, classified_classes, List.map_map, List.map_map]
  rfl

/-- A resolution that does not fail has found no constant declared twice. -/
theorem distinct_of_resolve {api : Api} (settled : (resolve api).failure = none) :
    DistinctConstants api.classes := by
  cases indexed : indexEnums [] [] (declaredEnums
      (onClasses (classifyClass (exposedNames api)) (onClasses resolveDocs api).1).1.classes) with
  | error duplicate => simp [resolve, indexed] at settled
  | ok index =>
      have distinct := (indexEnums_eq_ok_iff.mp indexed).1
      rwa [classified_classes, DistinctConstants, ownedEnums_classified] at distinct

end Resolve

/-! ## An accepted extraction -/

section Accepted

variable {options : Header.Options} {sources : List HeaderSource} {api : Api}

/-- An extraction that succeeds has gathered no constant twice. -/
theorem accepted_distinct (accepted : (extract options sources).result = .ok api) :
    Resolve.DistinctConstants (gather options {} sources).api.classes ∧
      api = (Resolve.resolve (gather options {} sources).api).api := by
  rw [extract, Gathered.finish] at accepted
  generalize gather options {} sources = gathered at accepted ⊢
  split at accepted
  · cases accepted
  · dsimp only at accepted
    split at accepted
    · cases accepted
    · rename_i settled
      exact ⟨Resolve.distinct_of_resolve settled, (Except.ok.inj accepted).symm⟩

/-- An interface that is accepted consists of the classes that are gathered, each resolved. -/
theorem accepted_classes (accepted : (extract options sources).result = .ok api) :
    api.classes = (gather options {} sources).api.classes.map
      (Resolve.resolveClass (Resolve.exposedNames (gather options {} sources).api)
        (Resolve.enumIndex (gather options {} sources).api.classes)) := by
  rcases accepted_distinct accepted with ⟨distinct, rfl⟩
  exact (Resolve.resolve_distinct distinct).2

/-- An extraction that succeeds relates what it has gathered to the interface that it gives. -/
theorem extract_ok (accepted : (extract options sources).result = .ok api) :
    ∃ index,
      Resolve.Indexes index (Resolve.ownedEnums (gather options {} sources).api.classes) ∧
      List.Forall₂
        (Resolve.ResolvedClass (Resolve.exposedNames (gather options {} sources).api) index)
        (gather options {} sources).api.classes api.classes := by
  refine ⟨_, Resolve.indexes_enumIndex (accepted_distinct accepted).1, ?_⟩
  rw [accepted_classes accepted, List.forall₂_map_right_iff, List.forall₂_same]
  intro c _
  exact Resolve.resolveClass_resolved _ _ c

end Accepted

end HeaderBindings
