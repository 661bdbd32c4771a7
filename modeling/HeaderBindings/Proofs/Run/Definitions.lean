import HeaderBindings.Proofs.Binding.Templates
import HeaderBindings.Proofs.Preprocessor.Outline
import HeaderBindings.Proofs.Run.Activity
import HeaderBindings.Proofs.Text.LineReplacement

/-!
# Definitions and their readers

Two parts of a run read the definitions of the settings, to which a command adds
its own.  The preprocessor takes the blanks off each of them and keeps those that
are identifiers; the managed wrapper asks whether the name of double precision is
among them as they stand.
So the two agree on a name exactly if it is given bare, or not given at all.
A definition with blanks around it is seen by the headers alone: blocks for
double precision are live while the wrapper keeps the alias of its template.
-/

namespace HeaderBindings

/-! ## Names that are given -/

namespace Preprocessor

variable {definitions lines : List String} {state : Conditions} {name line : String}

theorem trim_of_isIdentifier (identifier : isIdentifier name = true) : Text.trim name = name := by
  have notBlank := notBlank_of_isIdentifier identifier
  exact Text.Trimmed.trim_eq ⟨fun nonempty => notBlank _ (List.head_mem nonempty),
    fun nonempty => notBlank _ (List.getLast_mem nonempty)⟩

namespace Conditions

/-- An identifier is given by the definitions that are it, apart from blanks. -/
theorem isDefined_ofDefinitions_iff (identifier : isIdentifier name = true) :
    (ofDefinitions definitions).isDefined name = true ↔
      ∃ entry ∈ definitions, Text.trim entry = name := by
  rw [isDefined, List.contains_iff_mem, ofDefinitions, identifiers, List.mem_filter,
    List.mem_map, and_iff_left identifier]

/-- Only the definition of a name changes whether it is defined. -/
theorem isDefined_step {directive : Directive} (other : directive ≠ .define (some name)) :
    (state.step directive).isDefined name = state.isDefined name := by
  cases directive with
  | define defined =>
      cases defined with
      | none => rfl
      | some defined =>
          have different : (name == defined) = false := by
            rw [beq_eq_false_iff_ne]
            rintro rfl
            exact other rfl
          rw [isDefined, step, List.contains_cons, different, Bool.false_or, isDefined]
  | otherwise =>
      rw [step]
      split <;> rfl
  | ifDefined name negated => rfl
  | ifExpression => rfl
  | endIf => rfl
  | code => rfl

theorem isDefined_after (other : ∀ line ∈ lines, Directive.ofLine line ≠ .define (some name)) :
    (state.after lines).isDefined name = state.isDefined name := by
  induction lines generalizing state with
  | nil => rfl
  | cons line rest ih =>
      rcases List.forall_mem_cons.mp other with ⟨here, later⟩
      rw [after_cons, ih later, isDefined_step here]

/-- A block for a name is live at its start if the name is defined at the start of the header and no
line above defines it. -/
theorem isLive_block (opens : Directive.ofLine line = .ifDefined name false)
    (other : ∀ earlier ∈ lines, Directive.ofLine earlier ≠ .define (some name)) :
    (state.after (lines ++ [line])).isLive = state.isDefined name := by
  rw [after_concat, opens, ← isDefined_after other]
  exact Bool.bne_false _

end Conditions

end Preprocessor

/-! ## The alias of the managed wrapper -/

namespace Managed

open Binding

/-- The line that declares the precision of the real type. -/
def realAlias (isDouble : Bool) : String :=
  if isDouble then "using real_t = double;" else "using real_t = float;"

/-- A line of the template as the wrapper takes it over. -/
def withPrecision (isDouble : Bool) (line : String) : String :=
  if isDouble then Text.replaceAll line (realAlias false) (realAlias true) else line

/-- The lines of the wrapper with some classes. -/
def Options.lines (options : Options) (classes : List ClassDefinition) : List String :=
  replaced options.marker (blocks options.apiName classes) []
    (Text.splitLines options.preparedTemplate)

theorem alias_lineEnd (isDouble : Bool) :
    ∀ c ∈ (realAlias isDouble).toList, Text.isLineEnd c = false := by
  have free : (realAlias isDouble).toList.all (fun c => !Text.isLineEnd c) = true := by
    cases isDouble <;> decide
  simpa only [List.all_eq_true, Bool.not_eq_true'] using free

theorem splitLines_preparedTemplate (options : Options) :
    Text.splitLines options.preparedTemplate =
      (Text.splitLines options.template).map (withPrecision options.isDouble) := by
  cases isDouble : options.isDouble with
  | false =>
      rw [Options.preparedTemplate, isDouble, if_neg Bool.false_ne_true]
      exact (List.map_id _).symm
  | true =>
      rw [Options.preparedTemplate, isDouble, if_pos rfl]
      exact Text.splitLines_replaceAll (by decide) (alias_lineEnd false) (by decide)
        (alias_lineEnd true) options.template

theorem withPrecision_alias : withPrecision true (realAlias false) = realAlias true := by
  decide +kernel

/-- A line becomes an alias only if it is one, and then it becomes the one for double precision. -/
theorem withPrecision_eq_alias {line : String} {isDouble : Bool}
    (isAlias : withPrecision true line = realAlias isDouble) :
    isDouble = true ∧ (line = realAlias false ∨ line = realAlias true) := by
  have nonempty : (realAlias false).toList ≠ [] := by decide
  have written : (realAlias true).toList ≠ [] := by decide
  have chars := congrArg String.toList isAlias
  rw [withPrecision, if_pos rfl, Text.replaceAll, String.toList_ofList] at chars
  rcases Text.replaceFrom_first nonempty line.toList with kept | ⟨front, back, split, replaced⟩
  · rw [kept] at chars
    have isLine := String.toList_injective chars
    cases isDouble with
    | true => exact ⟨rfl, .inr isLine⟩
    | false =>
        rw [isLine, withPrecision_alias] at isAlias
        exact absurd isAlias (by decide)
  · -- the alias for double precision stands in the line that comes out, and fills it
    rw [replaced] at chars
    have size := congrArg List.length chars
    rw [List.length_append, List.length_append, show (realAlias true).toList.length = 22 by decide]
      at size
    cases isDouble with
    | false =>
        rw [show (realAlias false).toList.length = 21 by decide] at size
        omega
    | true =>
        rw [show (realAlias true).toList.length = 22 by decide] at size
        have noFront : front = [] := List.length_eq_zero_iff.mp (by omega)
        have noBack : back = [] :=
          (Text.replaceFrom_eq_nil_iff nonempty written back).mp
            (List.length_eq_zero_iff.mp (by omega))
        rw [noFront, noBack, List.nil_append, List.append_nil] at split
        exact ⟨rfl, .inl (String.toList_injective split)⟩

/-- The wrapper has the alias for the precision that is asked for, and not the other one. -/
theorem alias_mem_withPrecision_iff {lines : List String} (declared : realAlias false ∈ lines)
    (single : realAlias true ∉ lines) (isDouble asked : Bool) :
    realAlias asked ∈ lines.map (withPrecision isDouble) ↔ asked = isDouble := by
  cases isDouble with
  | false =>
      have same : lines.map (withPrecision false) = lines := List.map_id _
      rw [same]
      cases asked with
      | false => exact iff_of_true declared rfl
      | true => exact iff_of_false single (by decide)
  | true =>
      constructor
      · intro member
        rcases List.mem_map.mp member with ⟨line, _, isAlias⟩
        exact (withPrecision_eq_alias isAlias).1
      · rintro rfl
        exact List.mem_map.mpr ⟨_, declared, withPrecision_alias⟩

/-- A line outside the blocks that no mark ends is a line of the filled template if it is one of the
template. -/
theorem mem_replaced_iff {marker line : String} {blocks : List Block} {above below : List String}
    (kept : ∀ block ∈ blocks, block.ends marker line = false)
    (notInserted : ∀ block ∈ blocks, line ∉ block.lines) :
    line ∈ replaced marker blocks above below ↔ line ∈ below := by
  induction below generalizing above with
  | nil => rfl
  | cons first below ih =>
      rw [replaced, List.mem_append, ih, List.mem_cons]
      apply or_congr_left
      cases found : blocks.find? (Block.takes marker above first) with
      | none => exact List.mem_singleton
      | some block =>
          have inBlocks := List.mem_of_find?_eq_some found
          refine iff_of_false (notInserted block inBlocks) ?_
          rintro rfl
          have takes := List.find?_some found
          rw [Block.takes, kept block inBlocks, Bool.false_and] at takes
          cases takes

/-- Whether a line may start with the alias of a type. -/
def startsAlias (line : String) : Bool :=
  line.toList.head? == some 'u'

theorem startsAlias_append {front : String} {first : Char}
    (starts : front.toList.head? = some first) (other : first ≠ 'u') (back : String) :
    startsAlias (front ++ back) = false := by
  rw [startsAlias, String.toList_append, List.head?_append, starts, Option.some_or,
    beq_eq_false_iff_ne]
  exact fun same => other (Option.some.inj same)

theorem startsAlias_indented (field : Field) :
    startsAlias (indented "    " field.text) = false := by
  rw [indented]
  split
  · rename_i empty
    rw [String.isEmpty_iff.mp empty]
    rfl
  · exact startsAlias_append rfl (by decide) _

theorem startsAlias_nest (line : String) : startsAlias (nest 1 line) = false := by
  rw [nest]
  split
  · rename_i kept
    rcases Bool.or_eq_true_iff.mp kept with empty | directive
    · rw [String.isEmpty_iff.mp empty]
      rfl
    · rcases Text.startsWith_iff_exists.mp directive with ⟨rest, rfl⟩
      exact startsAlias_append rfl (by decide) rest
  · exact startsAlias_append rfl (by decide) line

theorem startsAlias_class (apiName : String) (c : ClassDefinition) :
    ∀ line ∈ c.lines apiName, startsAlias line = false := by
  intro line member
  simp only [ClassDefinition.lines, List.mem_append, List.mem_cons, List.mem_map,
    List.not_mem_nil, or_false] at member
  rcases member with ((⟨doc, _, rfl⟩ | rfl | rfl) | ⟨inner, _, rfl⟩) | rfl
  · exact startsAlias_append rfl (by decide) doc
  · split
    · exact startsAlias_append rfl (by decide) c.name
    · show startsAlias ("public class " ++ c.name ++ " : IDisposable") = false
      rw [String.append_assoc]
      exact startsAlias_append rfl (by decide) _
  · decide
  · exact startsAlias_nest inner
  · decide

/-- No generated line starts as an alias does. -/
theorem startsAlias_block (apiName : String) (classes : List ClassDefinition) :
    ∀ block ∈ blocks apiName classes, ∀ line ∈ block.lines, startsAlias line = false := by
  intro block member line inLines
  simp only [blocks, List.mem_cons, List.not_mem_nil, or_false] at member
  rcases member with rfl | rfl
  · rcases List.mem_map.mp inLines with ⟨field, _, rfl⟩
    exact startsAlias_indented field
  · rcases List.mem_cons.mp inLines with rfl | ofClass
    · rfl
    · rcases List.mem_flatMap.mp ofClass with ⟨c, _, inClass⟩
      rcases List.mem_append.mp inClass with inClass | isEmpty
      · exact startsAlias_class apiName c line inClass
      · rw [List.mem_singleton.mp isEmpty]
        rfl

/-- The lines of the wrapper with the alias are those of the template with its precision. -/
theorem alias_mem_lines_iff (options : Options) (classes : List ClassDefinition)
    (declared : realAlias false ∈ Text.splitLines options.template)
    (single : realAlias true ∉ Text.splitLines options.template) (asked : Bool) :
    realAlias asked ∈ options.lines classes ↔ asked = options.isDouble := by
  have kept : ∀ block ∈ blocks options.apiName classes,
      block.ends options.marker (realAlias asked) = false := by
    intro block member
    refine ends_eq_false ?_ (by cases asked <;> decide)
    have isName := List.mem_map_of_mem member (f := Block.name)
    rw [blocks_names] at isName
    revert isName
    generalize block.name = name
    revert name
    decide
  have notInserted : ∀ block ∈ blocks options.apiName classes,
      realAlias asked ∉ block.lines := by
    intro block member inLines
    have starts := startsAlias_block options.apiName classes block member _ inLines
    cases asked <;> cases starts
  rw [Options.lines, mem_replaced_iff kept notInserted, splitLines_preparedTemplate]
  exact alias_mem_withPrecision_iff declared single options.isDouble asked

/-- What the text of a wrapper is made of. -/
theorem generate_lines {api : Api} {options : Options} {source : String}
    (made : generate api options = .ok source) :
    ∃ classes, classesOf api.withLifecycle options.apiName = .ok classes ∧
      source = Text.joinLines (options.lines classes) := by
  rw [generate] at made
  rcases Outcome.bind_eq_ok_iff.mp made with ⟨classes, isClasses, filled⟩
  have lines := (filled_mapError Failure.missingMark options.preparedTemplate
    (blocks_apart options.marker options.apiName classes)
    (blocks_sealed options.marker options.apiName classes)).lines
  exact ⟨classes, isClasses, lines source filled⟩

end Managed

/-! ## The two readers -/

/-- What the managed wrapper is generated with. -/
def Settings.managedOptions (settings : Settings) (template : String) : Managed.Options where
  template := template
  marker := settings.marker
  apiName := settings.apiName
  isDouble := settings.defines Generation.doublePrecision

namespace Generation

variable {settings : Settings} {managed : ManagedSettings} {base : Path} {api : Api}

theorem writeManaged_eq :
    (writeManaged settings managed base api : ExceptT StageError (StateM FileTree) Path) =
      readText (base.join managed.template) >>= fun template =>
        ofExcept ((Managed.generate api (settings.managedOptions template)).mapError .managed) >>=
          fun source => ofExcept (nameOf (base.join managed.template)) >>= fun name =>
            writeText ((base.join managed.folder).join name) source >>= fun _ =>
              pure ((base.join managed.folder).join name) :=
  rfl

/-- A run that writes the managed wrapper has generated it from the template that it read. -/
theorem writeManaged_ok {tree : FileTree} {path : Path}
    (written : ((writeManaged settings managed base api :
      ExceptT StageError (StateM FileTree) Path).run.run tree).1 = .ok path) :
    ∃ bytes source, tree.read (base.join managed.template) = .ok bytes ∧
      Managed.generate api (settings.managedOptions (Text.decode bytes)) = .ok source ∧
      ((writeManaged settings managed base api :
          ExceptT StageError (StateM FileTree) Path).run.run tree).2 =
        ((writeText path source : ExceptT StageError (StateM FileTree) Unit).run.run tree).2 := by
  rw [writeManaged_eq] at written ⊢
  rcases exists_run_bind_ok written with ⟨template, isRead, rest⟩
  rw [rest] at written ⊢
  rw [run_readText] at isRead written ⊢
  rcases exists_run_bind_ok written with ⟨source, isMade, rest⟩
  rw [rest] at written ⊢
  rcases exists_run_bind_ok written with ⟨name, -, rest⟩
  rw [rest] at written ⊢
  rcases exists_run_bind_ok written with ⟨-, -, rest⟩
  rw [rest] at written ⊢
  rcases Outcome.map_eq_ok_iff.mp isRead with ⟨bytes, isBytes, rfl⟩
  have isPath : (base.join managed.folder).join name = path := Except.ok.inj written
  refine ⟨bytes, source, Outcome.mapError_eq_ok_iff.mp isBytes,
    Outcome.mapError_eq_ok_iff.mp isMade, ?_⟩
  rw [← isPath]
  rfl

end Generation

open Preprocessor Preprocessor.Conditions

/-- A name that is among the definitions as it stands, or not even with blanks around it. -/
def Settings.Unambiguous (settings : Settings) (name : String) : Prop :=
  name ∈ settings.definitions ∨ ∀ entry ∈ settings.definitions, Text.trim entry ≠ name

/-- How the definitions of some settings are read, by the managed wrapper and by the headers. -/
structure Settings.DefinitionsRead (settings : Settings) : Prop where
  /-- The wrapper takes them as they stand. -/
  bare : ∀ name, settings.defines name = true ↔ name ∈ settings.definitions
  /-- The headers take them without the blanks around them. -/
  trimmed : ∀ name, isIdentifier name = true →
    ((ofDefinitions settings.definitions).isDefined name = true ↔
      ∃ entry ∈ settings.definitions, Text.trim entry = name)
  /-- A bare definition is seen by both. -/
  included : ∀ name, isIdentifier name = true → settings.defines name = true →
    (ofDefinitions settings.definitions).isDefined name = true
  agree : ∀ name, isIdentifier name = true →
    (settings.defines name = (ofDefinitions settings.definitions).isDefined name ↔
      settings.Unambiguous name)
  /-- A block for a name that no line above defines is live at its start if the headers see it. -/
  live : ∀ name above line, Directive.ofLine line = .ifDefined name false →
    (∀ earlier ∈ above, Directive.ofLine earlier ≠ .define (some name)) →
    ((ofDefinitions settings.definitions).after (above ++ [line])).isLive =
      (ofDefinitions settings.definitions).isDefined name
  /-- What a run writes is generated with these options from the template that it reads. -/
  written : ∀ managed base api (tree : FileTree) path,
    ((Generation.writeManaged settings managed base api :
      ExceptT StageError (StateM FileTree) Path).run.run tree).1 = .ok path →
    ∃ bytes source, tree.read (base.join managed.template) = .ok bytes ∧
      Managed.generate api (settings.managedOptions (Text.decode bytes)) = .ok source ∧
      ((Generation.writeManaged settings managed base api :
          ExceptT StageError (StateM FileTree) Path).run.run tree).2 =
        ((Generation.writeText path source :
          ExceptT StageError (StateM FileTree) Unit).run.run tree).2
  /-- The wrapper takes every line of its template over, with the precision that it is asked for. -/
  wrapper : ∀ api template source,
    Managed.generate api (settings.managedOptions template) = .ok source →
    ∃ classes, Managed.classesOf api.withLifecycle settings.apiName = .ok classes ∧
      source = Text.joinLines (Binding.replaced settings.marker
        (Managed.blocks settings.apiName classes) []
        ((Text.splitLines template).map
          (Managed.withPrecision (settings.defines Generation.doublePrecision))))
  /-- So it declares double precision where the name for it is a definition as it stands. -/
  declared : ∀ template classes,
    Managed.realAlias false ∈ Text.splitLines template →
    Managed.realAlias true ∉ Text.splitLines template → ∀ isDouble,
    (Managed.realAlias isDouble ∈ (settings.managedOptions template).lines classes ↔
      isDouble = settings.defines Generation.doublePrecision)
  /-- The wrapper and the headers agree on the precision under the same condition. -/
  precision : ∀ template classes above line,
    Managed.realAlias false ∈ Text.splitLines template →
    Managed.realAlias true ∉ Text.splitLines template →
    Directive.ofLine line = .ifDefined Generation.doublePrecision false →
    (∀ earlier ∈ above, Directive.ofLine earlier ≠ .define (some Generation.doublePrecision)) →
    ((Managed.realAlias true ∈ (settings.managedOptions template).lines classes ↔
        ((ofDefinitions settings.definitions).after (above ++ [line])).isLive = true) ↔
      settings.Unambiguous Generation.doublePrecision)

section

variable {settings : Settings} {name : String}

theorem Settings.defines_iff : settings.defines name = true ↔ name ∈ settings.definitions :=
  List.contains_iff_mem

theorem Settings.agree_iff (identifier : isIdentifier name = true) :
    settings.defines name = (ofDefinitions settings.definitions).isDefined name ↔
      settings.Unambiguous name := by
  rw [Bool.eq_iff_iff, defines_iff, isDefined_ofDefinitions_iff identifier, Unambiguous]
  constructor
  · intro same
    by_cases bare : name ∈ settings.definitions
    · exact .inl bare
    · exact .inr fun entry member isName => bare (same.mpr ⟨entry, member, isName⟩)
  · rintro (bare | absent)
    · exact iff_of_true bare ⟨name, bare, trim_of_isIdentifier identifier⟩
    · refine iff_of_false (fun bare => ?_) ?_
      · exact absent name bare (trim_of_isIdentifier identifier)
      · rintro ⟨entry, member, isName⟩
        exact absent entry member isName

/--
The definitions have two readers, which agree on an identifier exactly if it is
given as it stands or not given at all.
-/
theorem Settings.definitionsRead (settings : Settings) : settings.DefinitionsRead where
  bare _ := defines_iff
  trimmed _ := isDefined_ofDefinitions_iff
  included name identifier bare :=
    (isDefined_ofDefinitions_iff identifier).mpr
      ⟨name, defines_iff.mp bare, trim_of_isIdentifier identifier⟩
  agree _ := agree_iff
  live _ _ _ := isLive_block
  written _ _ _ _ _ := Generation.writeManaged_ok
  wrapper api template source made := by
    rcases Managed.generate_lines made with ⟨classes, isClasses, isSource⟩
    rw [Managed.Options.lines, Managed.splitLines_preparedTemplate] at isSource
    exact ⟨classes, isClasses, isSource⟩
  declared template := Managed.alias_mem_lines_iff (settings.managedOptions template)
  precision template classes above line declared single opens other := by
    have identifier : isIdentifier Generation.doublePrecision = true := by decide +kernel
    have isDouble : Managed.realAlias true ∈ (settings.managedOptions template).lines classes ↔
        true = settings.defines Generation.doublePrecision :=
      Managed.alias_mem_lines_iff (settings.managedOptions template) classes declared single true
    rw [isDouble, isLive_block opens other, ← agree_iff identifier, @eq_comm _ true,
      ← Bool.eq_iff_iff]

end

/-! ## Definitions with blanks -/

/-- Settings with some definitions. -/
def settingsWith (definitions : List String) : Settings where
  definitions := definitions
  interfaceFolder := ⟨"out"⟩
  exports := { template := ⟨"templates/c_api.cpp"⟩ }
  native := { template := ⟨"templates/api.hpp"⟩, folder := ⟨"out"⟩ }

/-- A template with the alias and the marks of both blocks. -/
def aliasTemplate : String :=
  Text.joinLines ["using real_t = float;", "// GENERATOR_DD3D_API_DEFAULT_VALUES",
    "// GENERATOR_DD3D_API_FUNCTIONS"]

/-- The bare definition is read by the wrapper and by the headers. -/
theorem bareDefinition_read :
    (settingsWith ["LEVEL=2", "REAL_T_IS_DOUBLE"]).DefinitionsRead ∧
    (Managed.realAlias false ∈ Text.splitLines aliasTemplate ∧
      Managed.realAlias true ∉ Text.splitLines aliasTemplate) ∧
    Managed.realAlias true ∈
      ((settingsWith ["LEVEL=2", "REAL_T_IS_DOUBLE"]).managedOptions aliasTemplate).lines [] := by
  have read := (settingsWith ["LEVEL=2", "REAL_T_IS_DOUBLE"]).definitionsRead
  have declared : Managed.realAlias false ∈ Text.splitLines aliasTemplate := by decide +kernel
  have single : Managed.realAlias true ∉ Text.splitLines aliasTemplate := by decide +kernel
  exact ⟨read, ⟨declared, single⟩,
    (read.declared aliasTemplate [] declared single true).mpr (by decide +kernel)⟩

/-- A blank in front of a definition hides it from the wrapper, but not from the headers. -/
theorem definitions_not_always_alike :
    isIdentifier Generation.doublePrecision = true ∧
    (settingsWith [" REAL_T_IS_DOUBLE"]).defines Generation.doublePrecision = false ∧
    (ofDefinitions (settingsWith [" REAL_T_IS_DOUBLE"]).definitions).isDefined
      Generation.doublePrecision = true ∧
    ((ofDefinitions (settingsWith [" REAL_T_IS_DOUBLE"]).definitions).after
      ["#ifdef REAL_T_IS_DOUBLE"]).isLive = true ∧
    Managed.generate {} ((settingsWith [" REAL_T_IS_DOUBLE"]).managedOptions aliasTemplate) =
      .ok (Text.joinLines ["using real_t = float;", ""]) := by
  decide +kernel

end HeaderBindings
