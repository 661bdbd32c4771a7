import HeaderBindings.Proofs.Binding.Helpers
import HeaderBindings.Proofs.Binding.JoinedNames

/-!
# Exported symbols

A symbol is the name of a class, an underscore and a name that is local to the
class: that of a method, or one of the lifecycle.  Classes have different
names, and still two symbols can be equal.  Within a class the local names may
repeat, and between two classes the underscore may be read at another place
when the name of one class continues that of the other.  These are the only
ways.
-/

namespace HeaderBindings

open HeaderBindings.Binding

/-! ## Local names -/

/-- The local names of the functions that make and drop wrappers. -/
def ClassKind.lifecycleNames : ClassKind → List String
  | .singleton => []
  | .refcounted => ["create", "create_nullptr", "create_from_ref", "destroy"]
  | .regular => ["create", "create_nullptr", "destroy"]

/-- The local names of everything that is defined for a class. -/
def Class.localNames (c : Class) : List String :=
  c.kind.lifecycleNames ++ c.functions.map Function.name

def Class.symbolOf (c : Class) (name : String) : String :=
  c.name ++ "_" ++ name

def Class.symbols (c : Class) : List String :=
  c.localNames.map c.symbolOf

/-- Each class of some has different names for what is defined for it. -/
def DistinctWithin (classes : List Class) : Prop :=
  ∀ c ∈ classes, c.localNames.Nodup

/-- Where the name of a class continues that of another at an underscore, no local name of the
shorter one continues in the same way. -/
def DistinctAcross (classes : List Class) : Prop :=
  ∀ short ∈ classes, ∀ long ∈ classes, ∀ middle,
    long.name = short.name ++ "_" ++ middle →
      ∀ name ∈ long.localNames, middle ++ "_" ++ name ∉ short.localNames

theorem nodup_symbols_iff {classes : List Class} (names : (classes.map Class.name).Nodup) :
    (classes.flatMap Class.symbols).Nodup ↔ DistinctWithin classes ∧ DistinctAcross classes := by
  have differ : classes.Pairwise fun c d => c.name ≠ d.name := List.pairwise_map.mp names
  have apart : classes.Pairwise fun c d =>
      c.name = d.name → c.localNames.Disjoint d.localNames :=
    differ.imp fun different same => absurd same different
  have symbols : classes.flatMap Class.symbols =
      classes.flatMap (joinedNames Class.name Class.localNames) := rfl
  rw [symbols, nodup_joinedNames_iff]
  exact and_congr_right fun _ => and_iff_right apart

/-! ## Defined symbols -/

namespace Exports

/-- The symbols of the functions that are defined for a wrapper. -/
def Wrapper.definedSymbols (w : Wrapper) : List String :=
  [w.className ++ "_create", w.className ++ "_create_nullptr"] ++
    (if w.isCounted then [wrapReferenceName w.className] else []) ++ [w.className ++ "_destroy"]

/-- The symbols of all functions that are defined, in the order of the lines. -/
def Source.definedSymbols (source : Source) : List String :=
  source.wrappers.flatMap Wrapper.definedSymbols ++ source.definitions.map Definition.symbol

/-- Whether a line begins the definition of a function. -/
def beginsFunction (line : String) : Bool :=
  isHead line || Text.startsWith line "static void *"

/-- A line declares the function of a symbol. -/
def Declares (line symbol : String) : Prop :=
  ∃ linkage ∈ ["extern \"C\" static ", "static "], ∃ type params,
    line = linkage ++ (declaration type symbol ++ ("(" ++ (params ++ ") \x7b")))

/-- The first lines of the functions that are defined for a wrapper. -/
def Wrapper.functionHeads (w : Wrapper) : List String :=
  let c := w.className
  let name := wrapReferenceName c
  [s!"extern \"C\" static void *{c}_create() \x7b",
    s!"extern \"C\" static void *{c}_create_nullptr() \x7b"] ++
    (if w.isCounted then [s!"static void *{name}(Ref<{c}> ref) \x7b"] else []) ++
    [s!"extern \"C\" static void {c}_destroy(void *inst_ptr) \x7b"]

theorem Wrapper.lines_filter_beginsFunction (w : Wrapper) :
    w.lines.filter beginsFunction = w.functionHeads := by
  rw [lines, structureLines, makersLines, destroyLines, functionHeads]
  cases w.isCounted <;>
    simp [makerLines, beginsFunction, isHead, Text.startsWith, toString, String.append_assoc]

theorem Wrapper.functionHeads_declare (w : Wrapper) :
    List.Forall₂ Declares w.functionHeads w.definedSymbols := by
  have create : Declares s!"extern \"C\" static void *{w.className}_create() \x7b"
      (w.className ++ "_create") := by
    refine ⟨_, List.mem_cons_self, "void *", "", ?_⟩
    rw [declaration_handle, ← String.toList_inj]
    simp [toString]
  have createNull : Declares s!"extern \"C\" static void *{w.className}_create_nullptr() \x7b"
      (w.className ++ "_create_nullptr") := by
    refine ⟨_, List.mem_cons_self, "void *", "", ?_⟩
    rw [declaration_handle, ← String.toList_inj]
    simp [toString]
  have wrapReference :
      Declares s!"static void *{wrapReferenceName w.className}(Ref<{w.className}> ref) \x7b"
        (wrapReferenceName w.className) := by
    refine ⟨_, List.mem_cons_of_mem _ List.mem_cons_self, "void *", s!"Ref<{w.className}> ref", ?_⟩
    rw [declaration_handle, ← String.toList_inj]
    simp [toString]
  have destroy : Declares s!"extern \"C\" static void {w.className}_destroy(void *inst_ptr) \x7b"
      (w.className ++ "_destroy") := by
    refine ⟨_, List.mem_cons_self, "void", "void *inst_ptr", ?_⟩
    rw [declaration_void, ← String.toList_inj]
    simp [toString]
  rw [functionHeads, definedSymbols]
  cases w.isCounted with
  | true => exact .cons create (.cons createNull (.cons wrapReference (.cons destroy .nil)))
  | false => exact .cons create (.cons createNull (.cons destroy .nil))

theorem Definition.lines_filter_beginsFunction (d : Definition) :
    d.lines.filter beginsFunction = [d.head] := by
  rw [← d.lines_filter]
  apply List.filter_congr
  intro line member
  have notStatic : Text.startsWith line "static void *" = false := by
    apply Bool.eq_false_iff.mpr
    intro starts
    rcases Text.startsWith_iff_exists.mp starts with ⟨rest, rfl⟩
    exact d.lines_head? _ member (by simp)
  rw [beginsFunction, notStatic, Bool.or_false]

theorem Definition.head_declares (d : Definition) : Declares d.head d.symbol := by
  refine ⟨_, List.mem_cons_self, d.resultType, Text.joinWith ", " (d.params.map Param.text), ?_⟩
  unfold Definition.head
  generalize declaration d.resultType d.symbol = declared
  generalize Text.joinWith ", " (d.params.map Param.text) = params
  simp [toString, String.append_assoc]

/-- Each line that begins a function declares the symbol that is next in order. -/
theorem Source.symbols_declared (source : Source) :
    List.Forall₂ Declares
      ((source.wrappers.flatMap Wrapper.lines ++
        source.definitions.flatMap Definition.lines).filter beginsFunction)
      source.definedSymbols := by
  have wrappers : List.Forall₂ Declares
      ((source.wrappers.flatMap Wrapper.lines).filter beginsFunction)
      (source.wrappers.flatMap Wrapper.definedSymbols) := by
    rw [List.filter_flatMap]
    have same : List.Forall₂ Eq source.wrappers source.wrappers := List.forall₂_refl _
    refine List.rel_flatMap same fun w _ isSame => ?_
    cases isSame
    rw [w.lines_filter_beginsFunction]
    exact w.functionHeads_declare
  have definitions : List.Forall₂ Declares
      ((source.definitions.flatMap Definition.lines).filter beginsFunction)
      (source.definitions.map Definition.symbol) := by
    rw [List.filter_flatMap, List.map_eq_flatMap]
    have same : List.Forall₂ Eq source.definitions source.definitions := List.forall₂_refl _
    refine List.rel_flatMap same fun d _ isSame => ?_
    cases isSame
    rw [d.lines_filter_beginsFunction]
    exact .cons d.head_declares .nil
  rw [List.filter_append]
  exact List.rel_append wrappers definitions

theorem wrapper_definedSymbols (c : Class) :
    (Wrapper.ofClass? c).toList.flatMap Wrapper.definedSymbols =
      c.kind.lifecycleNames.map c.symbolOf := by
  rw [Wrapper.ofClass?]
  cases c.kind <;>
    simp [Wrapper.definedSymbols, ClassKind.lifecycleNames, Class.symbolOf, wrapReferenceName,
      String.append_assoc]

theorem definedSymbols_perm {api : Api}
    (symbols : ∀ c ∈ api.classes, ∀ f ∈ c.functions, f.symbol = c.symbolOf f.name) :
    (Source.ofApi api).definedSymbols.Perm (api.classes.flatMap Class.symbols) := by
  have definitions : (Source.ofApi api).definitions.map Definition.symbol =
      api.classes.flatMap fun c => (c.functions.map Function.name).map c.symbolOf := by
    rw [List.map_eq_flatMap, definitions_flatMap]
    apply List.flatMap_congr
    intro c inApi
    rw [List.map_map, List.map_eq_flatMap]
    apply List.flatMap_congr
    intro f inClass
    exact congrArg List.singleton (symbols c inApi f inClass)
  have split : Class.symbols = fun c =>
      c.kind.lifecycleNames.map c.symbolOf ++ (c.functions.map Function.name).map c.symbolOf := by
    funext c
    rw [Class.symbols, Class.localNames, List.map_append]
  rw [Source.definedSymbols, wrappers_flatMap, definitions, split]
  simp only [wrapper_definedSymbols]
  exact List.flatMap_append_perm _ _ _

end Exports

/-! ## The interface -/

/-- The symbols of the exported side, and what it takes that no two of them are equal. -/
structure Api.SymbolsDefined (api : Api) : Prop where
  /-- The functions block defines the listed symbols, one after the other. -/
  declared : ∀ options : Exports.Options,
    List.Forall₂ Exports.Declares
      ((linesOf ((Exports.Source.ofApi api).blocks options) "_FUNCTIONS").filter
        Exports.beginsFunction)
      (Exports.Source.ofApi api).definedSymbols
  symbols : (Exports.Source.ofApi api).definedSymbols.Perm (api.classes.flatMap Class.symbols)
  distinct : (Exports.Source.ofApi api).definedSymbols.Nodup ↔
    DistinctWithin api.classes ∧ DistinctAcross api.classes

/--
In the exported side of an accepted interface, symbols are equal only where a
class repeats a local name or continues the name of another class.
-/
theorem extract_symbolsDefined
    (options : Header.Options) (sources : List HeaderSource) (api : Api)
    (accepted : (extract options sources).result = .ok api) :
    api.SymbolsDefined := by
  have symbols : ∀ c ∈ api.classes, ∀ f ∈ c.functions, f.symbol = c.symbolOf f.name :=
    fun c inApi f inClass => (accepted_wellFormed accepted inApi inClass).symbol
  have permuted := Exports.definedSymbols_perm symbols
  constructor
  case declared =>
    intro options
    rw [Exports.linesOf_functions]
    exact Exports.Source.symbols_declared _
  case symbols => exact permuted
  case distinct =>
    rw [permuted.nodup_iff]
    exact nodup_symbols_iff (accepted_names accepted)

/-- A method is named like a function of the lifecycle, and the name of a class continues that of
another. -/
def collidingHeader : HeaderSource :=
  { name := "a.h"
    text :=
      "NAPI_CLASS class A \x7b\nNAPI void create();\nNAPI void B_f();\n\x7d;\n" ++
        "NAPI_CLASS_SINGLETON class A_B \x7b\nNAPI void f();\n\x7d;" }

def collidingApi : Api :=
  { classes := [
      { name := "A"
        kind := .regular
        functions := [
          { name := "create", symbol := "A_create", args := [.receiver], result := .void },
          { name := "B_f", symbol := "A_B_f", args := [.receiver], result := .void }] },
      { name := "A_B"
        kind := .singleton
        functions := [{ name := "f", symbol := "A_B_f", args := [], result := .void }] }] }

theorem extract_collidingHeader :
    (extract {} [collidingHeader]).result = .ok collidingApi := by
  decide +kernel

theorem collidingApi_symbolsDefined :
    (extract {} [collidingHeader]).result = .ok collidingApi ∧ collidingApi.SymbolsDefined :=
  ⟨extract_collidingHeader,
    extract_symbolsDefined {} [collidingHeader] collidingApi extract_collidingHeader⟩

/-- The symbols of an accepted interface are not always distinct. -/
theorem symbols_not_always_distinct :
    ¬ ∀ (options : Header.Options) (sources : List HeaderSource) (api : Api),
      (extract options sources).result = .ok api →
        (Exports.Source.ofApi api).definedSymbols.Nodup := by
  intro always
  have distinct := always {} [collidingHeader] collidingApi extract_collidingHeader
  revert distinct
  decide

end HeaderBindings
