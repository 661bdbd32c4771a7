import HeaderBindings.Proofs.Binding.BinaryInterface

/-!
# Helpers of the exported side

The bodies of the exported functions refer to what is defined for wrappers: to
the structure around an instance, and to the function that wraps a counted
reference.  All wrappers come before the first function, so the order of the
classes has no influence on whether a helper is defined where it is needed.
The kinds of the classes do: a class with one global instance has no wrapper,
and references are wrapped for counted classes only.  A counted reference type
may name a class of any kind, and then a body can refer to a helper that is
defined nowhere.
-/

namespace HeaderBindings

open HeaderBindings.Binding

namespace Exports

/-! ## Helpers -/

/-- Something that is defined for a wrapper and that function bodies refer to. -/
inductive Helper where
  /-- The structure that wraps an instance of a class. -/
  | wrapper (className : String)
  /-- The function that wraps a counted reference to a class. -/
  | wrapReference (className : String)
  deriving Repr, DecidableEq

namespace Helper

def className : Helper → String
  | .wrapper className => className
  | .wrapReference className => className

/-- The first line of the definition of a helper. -/
def definition : Helper → String
  | .wrapper className =>
    let name := wrapperName className
    s!"struct {name} \x7b"
  | .wrapReference className =>
    let name := wrapReferenceName className
    s!"static void *{name}(Ref<{className}> ref) \x7b"

/-- What stands in a body that refers to a helper. -/
def reference : Helper → String
  | .wrapper className =>
    let name := wrapperName className
    s!"static_cast<{name} *>"
  | .wrapReference className =>
    let name := wrapReferenceName className
    s!"return {name}("

/-- Whether a class is the one of a helper and of a kind that has the helper. -/
def SuppliedBy (c : Class) : Helper → Prop
  | .wrapper className => className = c.name ∧ c.isSingleton = false
  | .wrapReference className => className = c.name ∧ c.kind = .refcounted

def Supplied (classes : List Class) (helper : Helper) : Prop :=
  ∃ c ∈ classes, helper.SuppliedBy c

end Helper

/-! ## Parts of the exported side -/

def Receiver.helpers : Receiver → List Helper
  | .global _ => []
  | .wrapped className _ => [.wrapper className]

/-- The helpers in the expression that is passed on for a parameter. -/
def Passed.helpers : Passed → List Helper
  | .unwrapped className _ => [.wrapper className]
  | _ => []

def Handed.helpers : Handed → List Helper
  | .wrapped className => [.wrapReference className]
  | _ => []

/-- The helpers that the body of an exported function refers to. -/
def Definition.helpers (d : Definition) : List Helper :=
  d.receiver.helpers ++ d.passed.flatMap Passed.helpers ++ d.handed.helpers

/-- A stretch of the exported lines with the helpers that its bodies refer to. -/
structure Part where
  lines : List String
  helpers : List Helper
  deriving Repr, DecidableEq

/-- The parts of a wrapper: its definition with its makers, and the function that drops it. -/
def Wrapper.parts (w : Wrapper) : List Part :=
  [⟨w.structureLines ++ w.makersLines, []⟩, ⟨w.destroyLines, [.wrapper w.className]⟩]

def Definition.part (d : Definition) : Part :=
  ⟨d.lines, d.helpers⟩

/-- The parts of an exported side in the order of its lines. -/
def Source.parts (source : Source) : List Part :=
  source.wrappers.flatMap Wrapper.parts ++ source.definitions.map Definition.part

/-- Every helper that a part refers to is defined in the lines before the part. -/
def Source.Closed (source : Source) : Prop :=
  ∀ earlier part later, source.parts = earlier ++ part :: later →
    ∀ helper ∈ part.helpers, helper.definition ∈ earlier.flatMap Part.lines

theorem Wrapper.parts_lines (w : Wrapper) : w.parts.flatMap Part.lines = w.lines := by
  simp [Wrapper.parts, Wrapper.lines]

theorem wrapperParts_lines (wrappers : List Wrapper) :
    (wrappers.flatMap Wrapper.parts).flatMap Part.lines = wrappers.flatMap Wrapper.lines := by
  rw [List.flatMap_assoc]
  exact List.flatMap_congr fun w _ => w.parts_lines

theorem Source.parts_lines (source : Source) :
    source.parts.flatMap Part.lines =
      source.wrappers.flatMap Wrapper.lines ++ source.definitions.flatMap Definition.lines := by
  rw [Source.parts, List.flatMap_append, wrapperParts_lines, List.flatMap_map]
  rfl

/-! ## Where helpers are defined -/

def Wrapper.supplies (w : Wrapper) : List Helper :=
  .wrapper w.className :: if w.isCounted then [.wrapReference w.className] else []

theorem Helper.definition_head (helper : Helper) : helper.definition.toList.head? = some 's' := by
  cases helper <;> simp [definition, toString]

theorem Definition.lines_head? (d : Definition) :
    ∀ line ∈ d.lines, line.toList.head? ≠ some 's' := by
  rw [Definition.lines]
  cases d.handed <;> simp [Handed.lines, toString]

/-- No line of an exported function begins the definition of a helper. -/
theorem Definition.not_defines (d : Definition) (helper : Helper) :
    helper.definition ∉ d.lines := by
  intro member
  exact d.lines_head? _ member helper.definition_head

/-- A text that repeats a name determines the name. -/
theorem repeated_injective {name other : List Char} (between rest : List Char)
    (equal : name ++ (between ++ (name ++ rest)) = other ++ (between ++ (other ++ rest))) :
    name = other := by
  have lengths := congrArg List.length equal
  simp only [List.length_append] at lengths
  exact (List.append_inj equal (by omega)).1

theorem Helper.definition_injective : Function.Injective Helper.definition := by
  intro left right equal
  rw [← String.toList_inj] at equal
  cases left with
  | wrapper className =>
      cases right with
      | wrapper other =>
          have names : className.toList = other.toList := by
            simpa [definition, wrapperName, toString] using equal
          rw [String.toList_injective names]
      | wrapReference other => simp [definition, toString] at equal
  | wrapReference className =>
      cases right with
      | wrapper other => simp [definition, toString] at equal
      | wrapReference other =>
          have names : className.toList = other.toList := by
            apply repeated_injective "_create_from_ref(Ref<".toList "> ref) \x7b".toList
            simpa [definition, wrapReferenceName, toString] using equal
          rw [String.toList_injective names]

/-- Whether a line begins the definition of a helper. -/
def beginsHelper (line : String) : Bool :=
  Text.startsWith line "struct " || Text.startsWith line "static void *"

theorem Helper.beginsHelper_definition (helper : Helper) :
    beginsHelper helper.definition = true := by
  cases helper <;> simp [beginsHelper, definition, Text.startsWith, toString]

theorem Wrapper.lines_filter_beginsHelper (w : Wrapper) :
    w.lines.filter beginsHelper = w.supplies.map Helper.definition := by
  rw [lines, structureLines, makersLines, destroyLines, supplies]
  cases w.isCounted <;>
    simp [makerLines, beginsHelper, Text.startsWith, Helper.definition, toString,
      String.append_assoc]

theorem Wrapper.definition_mem_lines (w : Wrapper) (helper : Helper) :
    helper.definition ∈ w.lines ↔ helper ∈ w.supplies := by
  have begun : helper.definition ∈ w.lines ↔
      helper.definition ∈ w.lines.filter beginsHelper := by
    rw [List.mem_filter]
    exact (and_iff_left helper.beginsHelper_definition).symm
  rw [begun, w.lines_filter_beginsHelper]
  exact List.mem_map_of_injective Helper.definition_injective

theorem Helper.suppliedBy_iff {c : Class} {helper : Helper} :
    helper.SuppliedBy c ↔ ∃ w ∈ Wrapper.ofClass? c, helper ∈ w.supplies := by
  cases kind : c.kind <;> cases helper <;>
    simp [SuppliedBy, Wrapper.ofClass?, Wrapper.supplies, Class.isSingleton,
      ClassKind.isSingleton, kind]

/-- Among the wrappers a helper is defined when a class supplies it. -/
theorem definition_mem_wrappers (api : Api) (helper : Helper) :
    helper.definition ∈ (Source.ofApi api).wrappers.flatMap Wrapper.lines ↔
      helper.Supplied api.classes := by
  rw [wrappers_flatMap, List.mem_flatMap, Helper.Supplied]
  apply exists_congr
  intro c
  rw [Helper.suppliedBy_iff, List.mem_flatMap]
  simp only [Option.mem_toList, Wrapper.definition_mem_lines, Option.mem_def]

/-- A list made piece by piece, cut in front of an element, is cut inside one of the pieces. -/
theorem flatMap_split {α β : Type} {pieces : α → List β} {items : List α}
    {before after : List β} {b : β} (split : items.flatMap pieces = before ++ b :: after) :
    ∃ earlier item later front back,
      items = earlier ++ item :: later ∧ pieces item = front ++ b :: back ∧
        before = earlier.flatMap pieces ++ front := by
  induction items generalizing before with
  | nil => simp at split
  | cons item rest ih =>
      have inRest (middle : List β) (isRest : rest.flatMap pieces = middle ++ b :: after)
          (isBefore : before = pieces item ++ middle) :
          ∃ earlier found later front back,
            item :: rest = earlier ++ found :: later ∧ pieces found = front ++ b :: back ∧
              before = earlier.flatMap pieces ++ front := by
        rcases ih isRest with ⟨earlier, found, later, front, back, isItems, isPiece, isMiddle⟩
        refine ⟨item :: earlier, found, later, front, back, ?_, isPiece, ?_⟩
        · rw [isItems, List.cons_append]
        · rw [isBefore, isMiddle, List.flatMap_cons, List.append_assoc]
      rw [List.flatMap_cons] at split
      rcases List.append_eq_append_iff.mp split with ⟨middle, isBefore, isRest⟩ | ⟨back, isPiece, isAfter⟩
      · exact inRest middle isRest isBefore
      · cases back with
        | nil => exact inRest [] isAfter.symm (by rw [isPiece, List.append_nil, List.append_nil])
        | cons first back =>
            cases isAfter
            exact ⟨[], item, rest, before, back, rfl, isPiece, rfl⟩

theorem Definition.not_defines_parts (definitions : List Definition) (helper : Helper) :
    helper.definition ∉ (definitions.map Definition.part).flatMap Part.lines := by
  intro member
  rw [List.flatMap_map] at member
  rcases List.mem_flatMap.mp member with ⟨d, _, inLines⟩
  exact d.not_defines helper inLines

theorem Wrapper.definition_mem_structureLines (w : Wrapper) :
    (Helper.wrapper w.className).definition ∈ w.structureLines :=
  List.mem_cons_self

/-- In front of a function, the helpers of all classes are defined. -/
theorem definition_mem_before_function {api : Api} {earlier later : List Part} {part : Part}
    (split : (Source.ofApi api).definitions.map Definition.part = earlier ++ part :: later)
    (helper : Helper) :
    helper.definition ∈
        ((Source.ofApi api).wrappers.flatMap Wrapper.parts ++ earlier).flatMap Part.lines ↔
      helper.Supplied api.classes := by
  rcases List.map_eq_append_iff.mp split with ⟨definitions, _, _, isEarlier, _⟩
  have notHere : helper.definition ∉ earlier.flatMap Part.lines := by
    rw [← isEarlier]
    exact Definition.not_defines_parts definitions helper
  rw [List.flatMap_append, List.mem_append, or_iff_left notHere, wrapperParts_lines,
    definition_mem_wrappers]

/-- In front of a function that drops a wrapper, the structure of the wrapper is defined. -/
theorem definition_mem_before_wrapper {wrappers : List Wrapper} {earlier later : List Part}
    {part : Part} (split : wrappers.flatMap Wrapper.parts = earlier ++ part :: later)
    {helper : Helper} (refers : helper ∈ part.helpers) :
    helper.definition ∈ earlier.flatMap Part.lines := by
  rcases flatMap_split split with ⟨before, w, _, front, back, _, isParts, isEarlier⟩
  rw [Wrapper.parts] at isParts
  cases front with
  | nil =>
      cases isParts
      cases refers
  | cons first front =>
      rw [List.cons_append, List.cons.injEq] at isParts
      rcases isParts with ⟨isFirst, isLast⟩
      have isPart : part = ⟨w.destroyLines, [.wrapper w.className]⟩ := by
        cases front with
        | nil =>
            cases isLast
            rfl
        | cons second front => simp at isLast
      rw [isPart, List.mem_singleton] at refers
      rw [isEarlier, refers, ← isFirst]
      simp [w.definition_mem_structureLines]

/-- In front of a part that refers to a helper, the helper is defined when a class supplies it. -/
theorem definition_mem_before_iff {api : Api} {earlier later : List Part} {part : Part}
    (split : (Source.ofApi api).parts = earlier ++ part :: later)
    {helper : Helper} (refers : helper ∈ part.helpers) :
    helper.definition ∈ earlier.flatMap Part.lines ↔ helper.Supplied api.classes := by
  rw [Source.parts] at split
  rcases List.append_eq_append_iff.mp split with
    ⟨functions, isEarlier, isLater⟩ | ⟨back, isWrappers, isLater⟩
  · rw [isEarlier]
    exact definition_mem_before_function isLater helper
  · cases back with
    | nil =>
        rw [List.append_nil] at isWrappers
        have atFirst : (Source.ofApi api).definitions.map Definition.part = [] ++ part :: later :=
          isLater.symm
        have before := definition_mem_before_function atFirst helper
        rwa [isWrappers, List.append_nil] at before
    | cons first back =>
        cases isLater
        have defined := definition_mem_before_wrapper isWrappers refers
        refine iff_of_true defined ((definition_mem_wrappers api helper).mp ?_)
        rw [← wrapperParts_lines, isWrappers, List.flatMap_append]
        exact List.mem_append_left _ defined

/-! ## Which helpers are referred to -/

theorem mem_helpers_ofFunction {c : Class} {f : Function} {helper : Helper} :
    helper ∈ (Definition.ofFunction c f).helpers ↔
      (c.isSingleton = false ∧ helper = .wrapper c.name) ∨
      (∃ arg ∈ f.valueArgs, ∃ className,
        arg.typeClass = .refCounted className ∧ helper = .wrapper className) ∨
      (f.returnsVoid = false ∧ ∃ className,
        f.result.typeClass = .refCounted className ∧ helper = .wrapReference className) := by
  have receiver : helper ∈ (Receiver.ofClass c).helpers ↔
      c.isSingleton = false ∧ helper = .wrapper c.name := by
    cases kind : c.kind <;>
      simp [Receiver.ofClass, Receiver.helpers, Class.isSingleton, ClassKind.isSingleton, kind]
  have passed (arg : Argument) : helper ∈ (Passed.ofArgument arg).helpers ↔
      ∃ className, arg.typeClass = .refCounted className ∧ helper = .wrapper className := by
    cases typeClass : arg.typeClass <;> simp [Passed.ofArgument, Passed.helpers, typeClass]
  have handed : helper ∈ (Handed.ofFunction f).helpers ↔
      f.returnsVoid = false ∧ ∃ className,
        f.result.typeClass = .refCounted className ∧ helper = .wrapReference className := by
    cases void : f.returnsVoid <;> cases typeClass : f.result.typeClass <;>
      simp [Handed.ofFunction, Handed.helpers, void, typeClass]
  rw [Definition.helpers, List.mem_append, List.mem_append, Definition.ofFunction, receiver,
    handed, or_assoc]
  simp only [List.flatMap_map, List.mem_flatMap, passed]

/-! ## What stands in the lines -/

theorem Wrapper.refers_lines (w : Wrapper) :
    ∃ line ∈ w.destroyLines,
      Text.contains line (Helper.wrapper w.className).reference = true := by
  refine ⟨_, List.mem_cons_of_mem _ (List.mem_cons_of_mem _ List.mem_cons_self), ?_⟩
  apply Text.contains_iff_exists.mpr
  refine ⟨s!"\tif (const auto it = {storageName w.className}.find(",
    s!"(inst_ptr)); it != {storageName w.className}.end()) \x7b", ?_⟩
  apply String.toList_injective
  simp [Helper.reference, toString]

theorem Receiver.contains_text {receiver : Receiver} {helper : Helper}
    (refers : helper ∈ receiver.helpers) :
    Text.contains receiver.text helper.reference = true := by
  cases receiver with
  | global className => cases refers
  | wrapped className isCounted =>
      rw [List.mem_singleton.mp refers]
      apply Text.contains_iff_exists.mpr
      refine ⟨"", "(inst_ptr)->" ++ (if isCounted then "ref" else "ptr"), ?_⟩
      apply String.toList_injective
      simp [Receiver.text, Helper.reference, toString]

theorem Passed.contains_text {passed : Passed} {helper : Helper}
    (refers : helper ∈ passed.helpers) :
    Text.contains passed.text helper.reference = true := by
  cases passed with
  | unwrapped className name =>
      rw [List.mem_singleton.mp refers]
      apply Text.contains_iff_exists.mpr
      refine ⟨s!"({name} ? ", s!"({name})->ref : Ref<{className}>())", ?_⟩
      unfold Passed.text
      apply String.toList_injective
      simp [Helper.reference, toString]
  | same name => cases refers
  | engineObject className byReference name => cases refers
  | constant owner enumName name => cases refers

theorem Handed.exists_contains_call (handed : Handed) (call : String) :
    ∃ line ∈ handed.lines call, Text.contains line call = true := by
  have between (before after : String) :
      Text.contains (before ++ (call ++ after)) call = true :=
    Text.contains_iff_exists.mpr ⟨before, after, rfl⟩
  cases handed with
  | nothing => exact ⟨_, List.mem_cons_self, between "\t" ";"⟩
  | same => exact ⟨_, List.mem_cons_self, between "\treturn " ";"⟩
  | wrapped className =>
      refine ⟨_, List.mem_cons_self, ?_⟩
      have split := between ("\treturn " ++ (wrapReferenceName className ++ "(")) ");"
      simpa [toString, String.append_assoc] using split
  | instanceNumber byReference =>
      exact ⟨_, List.mem_cons_self, between "\tconst auto res = " ";"⟩
  | integer type =>
      refine ⟨_, List.mem_cons_self, ?_⟩
      have split := between ("\treturn static_cast<" ++ (type ++ ">(")) ");"
      simpa [toString, String.append_assoc] using split

theorem Handed.contains_line {handed : Handed} {helper : Helper}
    (refers : helper ∈ handed.helpers) (call : String) :
    ∃ line ∈ handed.lines call, Text.contains line helper.reference = true := by
  cases handed with
  | wrapped className =>
      rw [List.mem_singleton.mp refers]
      refine ⟨_, List.mem_cons_self, Text.contains_iff_exists.mpr ⟨"\t", call ++ ");", ?_⟩⟩
      apply String.toList_injective
      simp [Helper.reference, toString]
  | nothing => cases refers
  | same => cases refers
  | instanceNumber byReference => cases refers
  | integer type => cases refers

theorem Definition.call_contains_receiver (d : Definition) :
    Text.contains d.call d.receiver.text = true := by
  refine Text.contains_iff_exists.mpr ⟨"", "->" ++ (d.method ++ ("(" ++
    (Text.joinWith ", " (d.passed.map Passed.text) ++ ")"))), ?_⟩
  unfold Definition.call
  generalize Text.joinWith ", " (d.passed.map Passed.text) = passed
  simp [toString, String.append_assoc]

theorem Definition.call_contains_passed (d : Definition) {passed : Passed}
    (member : passed ∈ d.passed) :
    Text.contains d.call passed.text = true := by
  have list : Text.contains d.call (Text.joinWith ", " (d.passed.map Passed.text)) = true := by
    refine Text.contains_iff_exists.mpr ⟨d.receiver.text ++ ("->" ++ (d.method ++ "(")), ")", ?_⟩
    unfold Definition.call
    generalize Text.joinWith ", " (d.passed.map Passed.text) = passed
    simp [toString, String.append_assoc]
  exact Text.contains_trans list (Text.contains_joinWith (List.mem_map_of_mem member))

theorem Definition.refers_lines {d : Definition} {helper : Helper} (refers : helper ∈ d.helpers) :
    ∃ line ∈ d.lines, Text.contains line helper.reference = true := by
  have inLines {line : String} (member : line ∈ d.handed.lines d.call) : line ∈ d.lines := by
    simp [Definition.lines, member]
  have throughCall (named : Text.contains d.call helper.reference = true) :
      ∃ line ∈ d.lines, Text.contains line helper.reference = true := by
    rcases d.handed.exists_contains_call d.call with ⟨line, member, hasCall⟩
    exact ⟨line, inLines member, Text.contains_trans hasCall named⟩
  rcases List.mem_append.mp refers with called | handed
  · rcases List.mem_append.mp called with receiver | passed
    · exact throughCall
        (Text.contains_trans d.call_contains_receiver (Receiver.contains_text receiver))
    · rcases List.mem_flatMap.mp passed with ⟨item, member, inItem⟩
      exact throughCall
        (Text.contains_trans (d.call_contains_passed member) (Passed.contains_text inItem))
  · rcases Handed.contains_line handed d.call with ⟨line, member, named⟩
    exact ⟨line, inLines member, named⟩

theorem Wrapper.exists_class {api : Api} {w : Wrapper} (member : w ∈ (Source.ofApi api).wrappers) :
    ∃ c ∈ api.classes, c.name = w.className ∧ c.isSingleton = false := by
  rcases List.mem_filterMap.mp member with ⟨c, inApi, made⟩
  refine ⟨c, inApi, ?_⟩
  rw [Wrapper.ofClass?] at made
  cases kind : c.kind <;> rw [kind] at made <;> cases made <;>
    simp [Class.isSingleton, ClassKind.isSingleton, kind]

/-- A part is one of a wrapper without a reference, one that drops a wrapper, or a function. -/
theorem Source.part_cases {api : Api} {part : Part} (member : part ∈ (Source.ofApi api).parts) :
    part.helpers = [] ∨
    (∃ w ∈ (Source.ofApi api).wrappers, part = ⟨w.destroyLines, [.wrapper w.className]⟩) ∨
    ∃ c ∈ api.classes, ∃ f ∈ c.functions, part = (Definition.ofFunction c f).part := by
  rcases List.mem_append.mp member with ofWrapper | ofDefinition
  · rcases List.mem_flatMap.mp ofWrapper with ⟨w, inWrappers, inParts⟩
    rcases List.mem_cons.mp inParts with rfl | inRest
    · exact Or.inl rfl
    · exact Or.inr (Or.inl ⟨w, inWrappers, List.mem_singleton.mp inRest⟩)
  · rcases List.mem_map.mp ofDefinition with ⟨d, inDefinitions, rfl⟩
    rcases List.mem_flatMap.mp inDefinitions with ⟨c, inApi, inFunctions⟩
    rcases List.mem_map.mp inFunctions with ⟨f, inClass, rfl⟩
    exact Or.inr (Or.inr ⟨c, inApi, f, inClass, rfl⟩)

/-- Whatever a part refers to is named in its lines. -/
theorem Source.refers_lines {api : Api} {part : Part} (member : part ∈ (Source.ofApi api).parts)
    {helper : Helper} (refers : helper ∈ part.helpers) :
    ∃ line ∈ part.lines, Text.contains line helper.reference = true := by
  rcases Source.part_cases member with none | ⟨w, _, rfl⟩ | ⟨c, _, f, _, rfl⟩
  · rw [none] at refers
    cases refers
  · rw [List.mem_singleton.mp refers]
    exact w.refers_lines
  · exact Definition.refers_lines refers

theorem Source.helpers_declared {api : Api}
    (functions : ∀ c ∈ api.classes, ∀ f ∈ c.functions, f.WellFormed api.classes c) {part : Part}
    (member : part ∈ (Source.ofApi api).parts) {helper : Helper} (refers : helper ∈ part.helpers) :
    ∃ c ∈ api.classes, c.name = helper.className := by
  rcases Source.part_cases member with none | ⟨w, inWrappers, rfl⟩ | ⟨c, inApi, f, inClass, rfl⟩
  · rw [none] at refers
    cases refers
  · rw [List.mem_singleton.mp refers]
    rcases Wrapper.exists_class inWrappers with ⟨c, inApi, name, _⟩
    exact ⟨c, inApi, name⟩
  · have function := functions c inApi f inClass
    rcases mem_helpers_ofFunction.mp refers with
      ⟨_, rfl⟩ | ⟨arg, inValues, className, typeClass, rfl⟩ | ⟨_, className, typeClass, rfl⟩
    · exact ⟨c, inApi, rfl⟩
    · have grounded := (function.args arg (List.mem_filter.mp inValues).1).grounded
      rwa [typeClass] at grounded
    · have grounded := function.result.grounded
      rwa [typeClass] at grounded

end Exports

/-! ## Closed sources -/

/-- Behind every counted reference of a function stands a class that has what it takes: a wrapper
to unwrap an argument, and a wrapper around counted references to hand out a result. -/
structure Function.ReferencesWrapped (classes : List Class) (f : Function) : Prop where
  arguments : ∀ arg ∈ f.valueArgs, ∀ className, arg.typeClass = .refCounted className →
    ∃ c ∈ classes, c.name = className ∧ c.isSingleton = false
  result : f.returnsVoid = false → ∀ className, f.result.typeClass = .refCounted className →
    ∃ c ∈ classes, c.name = className ∧ c.kind = .refcounted

namespace Exports

theorem definition_mem_parts (api : Api) (helper : Helper) :
    helper.definition ∈ (Source.ofApi api).parts.flatMap Part.lines ↔
      helper.Supplied api.classes := by
  have notHere := Definition.not_defines_parts (Source.ofApi api).definitions helper
  rw [Source.parts, List.flatMap_append, List.mem_append, or_iff_left notHere,
    wrapperParts_lines, definition_mem_wrappers]

theorem Definition.part_mem_parts {api : Api} {c : Class} {f : Function}
    (inApi : c ∈ api.classes) (inClass : f ∈ c.functions) :
    (Definition.ofFunction c f).part ∈ (Source.ofApi api).parts :=
  List.mem_append_right _ (List.mem_map_of_mem
    (List.mem_flatMap.mpr ⟨c, inApi, List.mem_map_of_mem inClass⟩))

theorem supplied_of_closed {api : Api} (closed : (Source.ofApi api).Closed) {c : Class}
    {f : Function} (inApi : c ∈ api.classes) (inClass : f ∈ c.functions) {helper : Helper}
    (refers : helper ∈ (Definition.ofFunction c f).helpers) :
    helper.Supplied api.classes := by
  rcases List.append_of_mem (Definition.part_mem_parts inApi inClass) with ⟨earlier, later, split⟩
  exact (definition_mem_before_iff split refers).mp (closed _ _ _ split _ refers)

theorem closed_iff (api : Api) :
    (Source.ofApi api).Closed ↔
      ∀ c ∈ api.classes, ∀ f ∈ c.functions, f.ReferencesWrapped api.classes := by
  constructor
  · intro closed c inApi f inClass
    constructor
    · intro arg inValues className typeClass
      have refers : .wrapper className ∈ (Definition.ofFunction c f).helpers :=
        mem_helpers_ofFunction.mpr (Or.inr (Or.inl ⟨arg, inValues, className, typeClass, rfl⟩))
      rcases supplied_of_closed closed inApi inClass refers with ⟨d, declared, name, notSingleton⟩
      exact ⟨d, declared, name.symm, notSingleton⟩
    · intro returns className typeClass
      have refers : .wrapReference className ∈ (Definition.ofFunction c f).helpers :=
        mem_helpers_ofFunction.mpr (Or.inr (Or.inr ⟨returns, className, typeClass, rfl⟩))
      rcases supplied_of_closed closed inApi inClass refers with ⟨d, declared, name, counted⟩
      exact ⟨d, declared, name.symm, counted⟩
  · intro wrapped earlier part later split helper refers
    apply (definition_mem_before_iff split refers).mpr
    have member : part ∈ (Source.ofApi api).parts := by
      rw [split]
      exact List.mem_append_right _ List.mem_cons_self
    rcases Source.part_cases member with none | ⟨w, inWrappers, rfl⟩ | ⟨c, inApi, f, inClass, rfl⟩
    · rw [none] at refers
      cases refers
    · rw [List.mem_singleton.mp refers]
      rcases Wrapper.exists_class inWrappers with ⟨c, inApi, name, notSingleton⟩
      exact ⟨c, inApi, name.symm, notSingleton⟩
    · have function := wrapped c inApi f inClass
      rcases mem_helpers_ofFunction.mp refers with
        ⟨notSingleton, rfl⟩ | ⟨arg, inValues, className, typeClass, rfl⟩ |
          ⟨returns, className, typeClass, rfl⟩
      · exact ⟨c, inApi, rfl, notSingleton⟩
      · rcases function.arguments arg inValues className typeClass with
          ⟨d, declared, name, notSingleton⟩
        exact ⟨d, declared, name.symm, notSingleton⟩
      · rcases function.result returns className typeClass with ⟨d, declared, name, counted⟩
        exact ⟨d, declared, name.symm, counted⟩

end Exports

/-- Where the helpers of the exported side are defined. -/
structure Api.HelpersDefined (api : Api) : Prop where
  /-- The functions block consists of the parts. -/
  block : ∀ options : Exports.Options,
    linesOf ((Exports.Source.ofApi api).blocks options) "_FUNCTIONS" =
      (Exports.Source.ofApi api).parts.flatMap Exports.Part.lines
  /-- The helpers of a part are named in its lines, and the interface declares their classes. -/
  refers : ∀ part ∈ (Exports.Source.ofApi api).parts, ∀ helper ∈ part.helpers,
    (∃ line ∈ part.lines, Text.contains line helper.reference = true) ∧
      ∃ c ∈ api.classes, c.name = helper.className
  /-- The order of the parts is never in the way: what is not defined before is defined nowhere. -/
  before : ∀ earlier part later,
    (Exports.Source.ofApi api).parts = earlier ++ part :: later →
      ∀ helper ∈ part.helpers,
        (helper.definition ∈ earlier.flatMap Exports.Part.lines ↔ helper.Supplied api.classes) ∧
        (helper.definition ∈ (Exports.Source.ofApi api).parts.flatMap Exports.Part.lines ↔
          helper.Supplied api.classes)
  closed : (Exports.Source.ofApi api).Closed ↔
    ∀ c ∈ api.classes, ∀ f ∈ c.functions, f.ReferencesWrapped api.classes

/--
In the exported side of an accepted interface, every body finds its helpers
exactly when each counted reference is one to a class of the right kind.
-/
theorem extract_helpersDefined
    (options : Header.Options) (sources : List HeaderSource) (api : Api)
    (accepted : (extract options sources).result = .ok api) :
    api.HelpersDefined := by
  have functions : ∀ c ∈ api.classes, ∀ f ∈ c.functions, f.WellFormed api.classes c :=
    fun c inApi f inClass => accepted_wellFormed accepted inApi inClass
  constructor
  case block =>
    intro options
    rw [Exports.linesOf_functions, Exports.Source.parts_lines]
  case refers =>
    intro part member helper refers
    exact ⟨Exports.Source.refers_lines member refers,
      Exports.Source.helpers_declared functions member refers⟩
  case before =>
    intro earlier part later split helper refers
    exact ⟨Exports.definition_mem_before_iff split refers, Exports.definition_mem_parts api helper⟩
  case closed => exact Exports.closed_iff api

/-- Counted references to a class that is exposed without them and to one with a global instance. -/
def uncountedReferenceHeader : HeaderSource :=
  { name := "a.h"
    text :=
      "NAPI_CLASS class Stats : public RefCounted \x7b\nNAPI Ref<Stats> copy() const;\n\x7d;\n" ++
        "NAPI_CLASS_SINGLETON class Draw : public RefCounted \x7b\n" ++
        "NAPI void merge(Ref<Draw> other);\n\x7d;" }

def uncountedReferenceApi : Api :=
  { classes := [
      { name := "Stats"
        kind := .regular
        functions := [{
          name := "copy"
          symbol := "Stats_copy"
          args := [.receiver]
          result :=
            { type := "Ref<Stats>", abiType := "void *", typeClass := .refCounted "Stats" } }] },
      { name := "Draw"
        kind := .singleton
        functions := [{
          name := "merge"
          symbol := "Draw_merge"
          args := [{
            name := "other"
            type := "Ref<Draw>"
            abiType := "void *"
            typeClass := .refCounted "Draw" }]
          result := .void }] }] }

theorem extract_uncountedReferenceHeader :
    (extract {} [uncountedReferenceHeader]).result = .ok uncountedReferenceApi := by
  decide +kernel

theorem uncountedReferenceApi_helpersDefined :
    (extract {} [uncountedReferenceHeader]).result = .ok uncountedReferenceApi ∧
      uncountedReferenceApi.HelpersDefined :=
  ⟨extract_uncountedReferenceHeader,
    extract_helpersDefined {} [uncountedReferenceHeader] uncountedReferenceApi
      extract_uncountedReferenceHeader⟩

/-- Not everything that the exported side of an accepted interface refers to is defined. -/
theorem exports_not_always_closed :
    ¬ ∀ (options : Header.Options) (sources : List HeaderSource) (api : Api),
      (extract options sources).result = .ok api → (Exports.Source.ofApi api).Closed := by
  intro always
  have wrapped := (Exports.closed_iff _).mp
    (always {} [uncountedReferenceHeader] uncountedReferenceApi extract_uncountedReferenceHeader)
  have function := wrapped _ List.mem_cons_self _ List.mem_cons_self
  rcases function.result (by decide) "Stats" rfl with ⟨c, member, name, counted⟩
  revert c
  decide

end HeaderBindings
