import HeaderBindings.Proofs.Preprocessor.Liveness
import HeaderBindings.Proofs.Text.WordRun

/-!
# Headers whose blocks are closed

The preprocessor reads a header line by line and keeps a stack of open blocks.
Where every block that a header opens is closed again, its lines are those of an
outline: a tree with the conditional blocks as its branchings.  An outline can
be evaluated by recursion, with no stack: the code of a branch counts if the
names defined above the block select that branch, whatever surrounds the block.
The main theorem states that the preprocessor reports the lines of an outline by
this evaluation, under every state in which the outline can be met.
-/

namespace HeaderBindings.Preprocessor

open Text (trim trimEnd)

/-! ## Outlines -/

/-- The starts of the directives. -/
def keywords : List String :=
  ["#define ", "#ifdef ", "#ifndef ", "#if ", "#if(", "#else", "#endif"]

/-- A line that is none of the directives. -/
def IsPlain (line : String) : Prop :=
  ∀ keyword ∈ keywords, Text.startsWith (trim line) keyword = false

instance (line : String) : Decidable (IsPlain line) :=
  inferInstanceAs (Decidable (∀ keyword ∈ keywords, Text.startsWith (trim line) keyword = false))

/-- The line that opens a block, by its text after the keyword. -/
inductive Test where
  | ifDefined (text : String) (written : trim text ≠ "")
  | ifNotDefined (text : String) (written : trim text ≠ "")
  /-- `#if` before a blank. -/
  | expression (text : String) (written : trim text ≠ "")
  /-- `#if` before a parenthesis. -/
  | parenthesis (text : String)

/-- Some lines, in which every block that is opened is closed. -/
inductive Outline where
  | nil
  | code (line : String) (plain : IsPlain line) (rest : Outline)
  /-- `#define` with a name, or with a name and a value. -/
  | define (text : String) (written : trim text ≠ "") (rest : Outline)
  | block (test : Test) (body : Outline) (endTail : String) (rest : Outline)
  /-- A block with a second branch. -/
  | branches (test : Test) (body : Outline) (elseTail : String) (otherwise : Outline)
      (endTail : String) (rest : Outline)

namespace Test

/-- The line of a test. -/
def line : Test → String
  | .ifDefined text _ => "#ifdef " ++ text
  | .ifNotDefined text _ => "#ifndef " ++ text
  | .expression text _ => "#if " ++ text
  | .parenthesis text => "#if(" ++ text

/-- Whether the first branch of a block is selected where some names are defined, or the second
one; an expression selects both. -/
def selects (test : Test) (defined : List String) (first : Bool) : Bool :=
  match test with
  | .ifDefined text _ => decide (trim text ∈ defined) == first
  | .ifNotDefined text _ => decide (trim text ∉ defined) == first
  | .expression .. => true
  | .parenthesis _ => true

end Test

/-- The name that is defined by the text after `#define`; the definition of a name with a value
defines none. -/
def definedName? (text : String) : Option String :=
  if isIdentifier (trim text) then some (trim text) else none

theorem notBlank_of_isIdentifier {name : String} (identifier : isIdentifier name = true) :
    ∀ c ∈ name.toList, Text.isBlank c = false := by
  have apart {c : Char} (inName : (c == '_' || c.isAlphanum) = true) : Text.isBlank c = false :=
    @Text.isBlank_of_apart (fun c => c == '_' || c.isAlphanum) c (by decide +kernel) inName
  rw [isIdentifier] at identifier
  cases chars : name.toList with
  | nil => simp
  | cons first rest =>
      rw [chars, Bool.and_eq_true, List.all_eq_true] at identifier
      intro c member
      rcases List.mem_cons.mp member with rfl | later
      · apply apart
        simp only [Char.isAlphanum]
        grind
      · exact apart (identifier.2 c later)

/-- An identifier alone is defined. -/
theorem definedName?_identifier {name : String} (identifier : isIdentifier name = true) :
    definedName? name = some name := by
  have notBlank := notBlank_of_isIdentifier identifier
  have trimmed : Text.Trimmed name :=
    ⟨fun nonempty => notBlank _ (List.head_mem nonempty),
      fun nonempty => notBlank _ (List.getLast_mem nonempty)⟩
  rw [definedName?, trimmed.trim_eq, if_pos identifier]

/-- A name with a value is not defined. -/
theorem definedName?_valued {name value : String} (named : trim name ≠ "")
    (valued : trim value ≠ "") : definedName? (name ++ " " ++ value) = none := by
  rcases Text.exists_trim name with ⟨front, nameBack, nameSplit, frontBlank, _⟩
  rcases Text.exists_trim value with ⟨valueFront, back, valueSplit, _, backBlank⟩
  let between : String := .ofList (nameBack ++ ' ' :: valueFront)
  have nonempty {text : String} (written : trim text ≠ "") : (trim text).toList ≠ [] := by
    simpa using written
  have kept : trim (name ++ " " ++ value) = trim name ++ (between ++ trim value) := by
    have whole : name ++ " " ++ value =
        .ofList (front ++ ((trim name ++ (between ++ trim value)).toList ++ back)) := by
      apply String.toList_injective
      simp [nameSplit, valueSplit, between]
    rw [whole, Text.trim_around _ frontBlank backBlank, String.ofList_toList]
    exact ((Text.trimmed_trim name).around (nonempty named) (Text.trimmed_trim value)
      (nonempty valued) between).trim_eq
  rw [definedName?, if_neg]
  intro identifier
  have blank := notBlank_of_isIdentifier identifier ' ' (by simp [kept, between])
  cases blank

namespace Outline

/-- The lines of an outline. -/
def lines : Outline → List String
  | .nil => []
  | .code line _ rest => line :: rest.lines
  | .define text _ rest => ("#define " ++ text) :: rest.lines
  | .block test body endTail rest =>
    test.line :: (body.lines ++ ("#endif" ++ endTail) :: rest.lines)
  | .branches test body elseTail otherwise endTail rest =>
    test.line :: (body.lines ++ ("#else" ++ elseTail) ::
      (otherwise.lines ++ ("#endif" ++ endTail) :: rest.lines))

/-- The names that are defined anywhere in an outline. -/
def names : Outline → List String
  | .nil => []
  | .code _ _ rest => rest.names
  | .define text _ rest => (definedName? text).toList ++ rest.names
  | .block _ body _ rest => body.names ++ rest.names
  | .branches _ body _ otherwise _ rest => body.names ++ otherwise.names ++ rest.names

/-- Which lines of an outline count, where some names are defined above it and `live` tells whether
the code around it counts. -/
def liveness (defined : List String) (live : Bool) : Outline → List Bool
  | .nil => []
  | .code _ _ rest => live :: rest.liveness defined live
  | .define text _ rest =>
    false :: rest.liveness (defined ++ (definedName? text).toList) live
  | .block test body _ rest =>
    false :: (body.liveness defined (test.selects defined true) ++
      false :: rest.liveness (defined ++ body.names) live)
  | .branches test body _ otherwise _ rest =>
    let between := defined ++ body.names
    false :: (body.liveness defined (test.selects defined true) ++
      false :: (otherwise.liveness between (test.selects defined false) ++
        false :: rest.liveness (between ++ otherwise.names) live))

/-- The evaluation depends on which names are defined, and not on their order. -/
theorem liveness_congr {defined others : List String} (same : ∀ name, name ∈ defined ↔ name ∈ others)
    (live : Bool) (outline : Outline) :
    outline.liveness defined live = outline.liveness others live := by
  have append {defined others : List String} (same : ∀ name, name ∈ defined ↔ name ∈ others)
      (more : List String) : ∀ name, name ∈ defined ++ more ↔ name ∈ others ++ more := by
    intro name
    rw [List.mem_append, List.mem_append, same]
  have selects (test : Test) {defined others : List String}
      (same : ∀ name, name ∈ defined ↔ name ∈ others) :
      test.selects defined = test.selects others := by
    funext first
    cases test <;> simp only [Test.selects, same]
  induction outline generalizing defined others live with
  | nil => rfl
  | code line plain rest ih => rw [liveness, liveness, ih same]
  | define text written rest ih => rw [liveness, liveness, ih (append same _)]
  | block test body endTail rest bodyIh restIh =>
      rw [liveness, liveness, bodyIh same, restIh (append same _), selects test same]
  | branches test body elseTail otherwise endTail rest bodyIh otherwiseIh restIh =>
      have between := append same body.names
      simp only [liveness]
      rw [bodyIh same, otherwiseIh between, restIh (append between _), selects test same]

end Outline

/-! ## The directives of an outline -/

namespace Directive

/-- The blanks around a line make no difference. -/
theorem ofLine_trim (line : String) : ofLine (trim line) = ofLine line := by
  unfold ofLine
  rw [(Text.trimmed_trim line).trim_eq]

theorem ofLine_plain {line : String} (plain : IsPlain line) : ofLine line = .code := by
  have absent (keyword : String) (isKeyword : keyword ∈ keywords) :
      Text.dropHead? (trim line) keyword = none := by
    simpa using Text.dropHead?_append_eq_none "" (plain keyword isKeyword)
  rw [ofLine]
  simp only [absent "#define " (by decide), absent "#ifdef " (by decide),
    absent "#ifndef " (by decide), plain "#if " (by decide), plain "#if(" (by decide),
    plain "#else" (by decide), plain "#endif" (by decide), Bool.or_self, Bool.false_eq_true,
    if_false]

section Spelling

variable {text : String}

/-- Trimming a line keeps a keyword at its start. -/
theorem trim_keyword (keyword tail : String) {last : Char}
    (starts : keyword.toList.head? = some '#') (ends : keyword.toList.getLast? = some last)
    (notBlank : Text.isBlank last = false) :
    trim (keyword ++ tail) = keyword ++ trimEnd tail := by
  have trimmed : Text.Trimmed keyword := Text.trimmed_of_ends starts (by decide) ends notBlank
  have nonempty : keyword.toList ≠ [] := by
    intro empty
    rw [empty] at starts
    cases starts
  have indented := @Text.trim_indented "" keyword tail (by simp) trimmed nonempty
  rwa [String.empty_append] at indented

/-- The blank after a keyword is kept if some text follows. -/
theorem trimEnd_blank (written : trim text ≠ "") : trimEnd (" " ++ text) = " " ++ trimEnd text := by
  have notBlank : ¬ (text.toList.reverse.dropWhile Text.isBlank).isEmpty = true := by
    intro allBlank
    apply written
    rw [← Text.trim_trimEnd, trimEnd, Text.dropEndWhile, List.isEmpty_iff.mp allBlank]
    rfl
  apply String.toList_injective
  simp only [trimEnd, Text.dropEndWhile, String.toList_append, String.toList_ofList,
    List.reverse_append, List.dropWhile_append, if_neg notBlank]
  simp

theorem trim_keyword_blank (keyword : String) {last : Char} (written : trim text ≠ "")
    (starts : keyword.toList.head? = some '#') (ends : keyword.toList.getLast? = some last)
    (notBlank : Text.isBlank last = false) :
    trim (keyword ++ (" " ++ text)) = keyword ++ (" " ++ trimEnd text) := by
  rw [trim_keyword keyword _ starts ends notBlank, trimEnd_blank written]

theorem dropHead?_append (keyword tail : String) :
    Text.dropHead? (keyword ++ tail) keyword = some tail :=
  Text.dropHead?_eq_some_iff.mpr rfl

theorem ofLine_define (written : trim text ≠ "") :
    ofLine ("#define " ++ text) = .define (definedName? text) := by
  have spelled : trim ("#define " ++ text) = "#define " ++ trimEnd text :=
    trim_keyword_blank "#define" written rfl rfl (by decide)
  rw [ofLine, spelled, dropHead?_append]
  simp only [Text.trim_trimEnd]
  rfl

theorem ofLine_ifDefined (written : trim text ≠ "") :
    ofLine ("#ifdef " ++ text) = .ifDefined (trim text) false := by
  have spelled : trim ("#ifdef " ++ text) = "#ifdef " ++ trimEnd text :=
    trim_keyword_blank "#ifdef" written rfl rfl (by decide)
  rw [ofLine, spelled, dropHead?_append]
  simp [Text.dropHead?, List.isPrefixOf?, Text.trim_trimEnd]

theorem ofLine_ifNotDefined (written : trim text ≠ "") :
    ofLine ("#ifndef " ++ text) = .ifDefined (trim text) true := by
  have spelled : trim ("#ifndef " ++ text) = "#ifndef " ++ trimEnd text :=
    trim_keyword_blank "#ifndef" written rfl rfl (by decide)
  rw [ofLine, spelled, dropHead?_append]
  simp [Text.dropHead?, List.isPrefixOf?, Text.trim_trimEnd]

theorem ofLine_if (written : trim text ≠ "") : ofLine ("#if " ++ text) = .ifExpression := by
  have spelled : trim ("#if " ++ text) = "#if " ++ trimEnd text :=
    trim_keyword_blank "#if" written rfl rfl (by decide)
  rw [ofLine, spelled]
  simp [Text.dropHead?, Text.startsWith, List.isPrefixOf?, List.isPrefixOf]

theorem ofLine_ifParenthesis (text : String) : ofLine ("#if(" ++ text) = .ifExpression := by
  rw [ofLine, trim_keyword "#if(" text rfl rfl (by decide)]
  simp [Text.dropHead?, Text.startsWith, List.isPrefixOf?, List.isPrefixOf]

theorem ofLine_else (tail : String) : ofLine ("#else" ++ tail) = .otherwise := by
  rw [ofLine, trim_keyword "#else" tail rfl rfl (by decide)]
  simp [Text.dropHead?, Text.startsWith, List.isPrefixOf?, List.isPrefixOf]

theorem ofLine_endif (tail : String) : ofLine ("#endif" ++ tail) = .endIf := by
  rw [ofLine, trim_keyword "#endif" tail rfl rfl (by decide)]
  simp [Text.dropHead?, Text.startsWith, List.isPrefixOf?, List.isPrefixOf]

end Spelling

/-- The directive of a test. -/
def ofTest : Test → Directive
  | .ifDefined text _ => .ifDefined (trim text) false
  | .ifNotDefined text _ => .ifDefined (trim text) true
  | .expression .. => .ifExpression
  | .parenthesis _ => .ifExpression

theorem ofLine_test (test : Test) : ofLine test.line = ofTest test := by
  cases test with
  | ifDefined text written => exact ofLine_ifDefined written
  | ifNotDefined text written => exact ofLine_ifNotDefined written
  | expression text written => exact ofLine_if written
  | parenthesis text => exact ofLine_ifParenthesis text

end Directive

/-! ## Lines one after another -/

namespace Conditions

/-- Which of some lines count. -/
def reports (state : Conditions) : List String → List Bool
  | [] => []
  | line :: rest =>
    state.admits (Directive.ofLine line) :: (state.step (Directive.ofLine line)).reports rest

theorem reports_append (state : Conditions) (lines more : List String) :
    state.reports (lines ++ more) = state.reports lines ++ (state.after lines).reports more := by
  induction lines generalizing state with
  | nil => rfl
  | cons line rest ih => rw [List.cons_append, reports, ih, reports, after_cons, List.cons_append]

/-- The blanks around lines make no difference. -/
theorem reports_congr {lines others : List String} (same : lines.map trim = others.map trim)
    (state : Conditions) : state.reports lines = state.reports others := by
  have trimmed (state : Conditions) (lines : List String) :
      state.reports (lines.map trim) = state.reports lines := by
    induction lines generalizing state with
    | nil => rfl
    | cons line rest ih => rw [List.map_cons, reports, reports, Directive.ofLine_trim, ih]
  rw [← trimmed state lines, same, trimmed]

theorem after_congr {lines others : List String} (same : lines.map trim = others.map trim)
    (state : Conditions) : state.after lines = state.after others := by
  have trimmed (state : Conditions) (lines : List String) :
      state.after (lines.map trim) = state.after lines := by
    induction lines generalizing state with
    | nil => rfl
    | cons line rest ih => rw [List.map_cons, after_cons, after_cons, Directive.ofLine_trim, ih]
  rw [← trimmed state lines, same, trimmed]

end Conditions

/-! ## The preprocessor along an outline -/

namespace Test

/-- The block that a test opens where some names are defined. -/
def block (test : Test) (defined : List String) : Block :=
  match test with
  | .ifDefined text _ => .tested (defined.contains (trim text) != false)
  | .ifNotDefined text _ => .tested (defined.contains (trim text) != true)
  | .expression .. => .unevaluated
  | .parenthesis _ => .unevaluated

theorem isLive_block (test : Test) (defined : List String) :
    (test.block defined).isLive = test.selects defined true := by
  cases test <;> simp [block, Block.isLive, selects]

theorem isLive_flip_block (test : Test) (defined : List String) :
    (test.block defined).flip.isLive = test.selects defined false := by
  cases test <;> simp [block, Block.flip, Block.isLive, selects]

end Test

namespace Conditions

theorem step_test (state : Conditions) (test : Test) :
    state.step (Directive.ofLine test.line) =
      { state with blocks := test.block state.defined :: state.blocks } := by
  rw [Directive.ofLine_test]
  cases test <;> rfl

theorem admits_test (state : Conditions) (test : Test) :
    state.admits (Directive.ofLine test.line) = false := by
  rw [Directive.ofLine_test]
  cases test <;> rfl

theorem step_define {text : String} (state : Conditions) (written : trim text ≠ "") :
    state.step (Directive.ofLine ("#define " ++ text)) =
      { state with defined := (definedName? text).toList ++ state.defined } := by
  rw [Directive.ofLine_define written]
  cases definedName? text <;> rfl

theorem step_else {state : Conditions} {block : Block} {outer : List Block}
    (inside : state.blocks = block :: outer) (tail : String) :
    state.step (Directive.ofLine ("#else" ++ tail)) =
      { state with blocks := block.flip :: outer } := by
  rw [Directive.ofLine_else, step, inside]

theorem step_endif {state : Conditions} {block : Block} {outer : List Block}
    (inside : state.blocks = block :: outer) (tail : String) :
    state.step (Directive.ofLine ("#endif" ++ tail)) = { state with blocks := outer } := by
  rw [Directive.ofLine_endif, step, inside]
  rfl

/-- An outline leaves the open blocks as they are. -/
theorem blocks_after (state : Conditions) (outline : Outline) :
    (state.after outline.lines).blocks = state.blocks := by
  induction outline generalizing state with
  | nil => rfl
  | code line plain rest ih => rw [Outline.lines, after_cons, ih, Directive.ofLine_plain plain, step]
  | define text written rest ih => rw [Outline.lines, after_cons, ih, step_define state written]
  | block test body endTail rest bodyIh restIh =>
      rw [Outline.lines, after_cons, after_append, after_cons, restIh, step_test,
        step_endif (bodyIh _)]
  | branches test body elseTail otherwise endTail rest bodyIh otherwiseIh restIh =>
      rw [Outline.lines, after_cons, after_append, after_cons, after_append, after_cons, restIh,
        step_test, step_else (bodyIh _), step_endif (otherwiseIh _)]

/-- An outline adds the names that it defines, those of inactive branches included. -/
theorem mem_defined_after {name : String} (state : Conditions) (outline : Outline) :
    name ∈ (state.after outline.lines).defined ↔ name ∈ state.defined ∨ name ∈ outline.names := by
  induction outline generalizing state with
  | nil => simp [Outline.lines, Outline.names]
  | code line plain rest ih =>
      rw [Outline.lines, Outline.names, after_cons, ih, Directive.ofLine_plain plain, step]
  | define text written rest ih =>
      rw [Outline.lines, Outline.names, after_cons, ih, step_define state written]
      rw [List.mem_append, List.mem_append]
      exact or_assoc.trans or_left_comm
  | block test body endTail rest bodyIh restIh =>
      rw [Outline.lines, Outline.names, after_cons, after_append, after_cons, restIh, step_test,
        step_endif (blocks_after _ body), bodyIh, List.mem_append, or_assoc]
  | branches test body elseTail otherwise endTail rest bodyIh otherwiseIh restIh =>
      rw [Outline.lines, Outline.names, after_cons, after_append, after_cons, after_append,
        after_cons, restIh, step_test, step_else (blocks_after _ body),
        step_endif (blocks_after _ otherwise), otherwiseIh, bodyIh, List.mem_append,
        List.mem_append, or_assoc, or_assoc, or_assoc]

theorem isLive_eq {state : Conditions} {block : Block} {outer : List Block}
    (inside : state.blocks = block :: outer) : state.isLive = block.isLive := by
  rw [isLive, inside]

/-- The lines of an outline are reported as the outline is evaluated. -/
theorem reports_outline (state : Conditions) (outline : Outline) :
    state.reports outline.lines = outline.liveness state.defined state.isLive := by
  have append (state : Conditions) (body : Outline) (name : String) :
      name ∈ (state.after body.lines).defined ↔ name ∈ state.defined ++ body.names := by
    rw [mem_defined_after, List.mem_append]
  induction outline generalizing state with
  | nil => rfl
  | code line plain rest ih =>
      rw [Outline.lines, Outline.liveness, reports, Directive.ofLine_plain plain, ih]
      rfl
  | define text written rest ih =>
      have same (name : String) : name ∈ (definedName? text).toList ++ state.defined ↔
          name ∈ state.defined ++ (definedName? text).toList := by
        rw [List.mem_append, List.mem_append, or_comm]
      have later := Outline.liveness_congr same state.isLive rest
      rw [Outline.lines, Outline.liveness, reports, step_define state written, ih,
        Directive.ofLine_define written, ← later]
      simp only [admits, isLive]
  | block test body endTail rest bodyIh restIh =>
      let inside : Conditions := { state with blocks := test.block state.defined :: state.blocks }
      have atEnd : (inside.after body.lines).blocks = test.block state.defined :: state.blocks :=
        blocks_after inside body
      have first : inside.reports body.lines =
          body.liveness state.defined (test.selects state.defined true) := by
        rw [bodyIh, isLive_eq rfl, Test.isLive_block]
      have later : ({ inside.after body.lines with blocks := state.blocks } : Conditions).reports
          rest.lines = rest.liveness (state.defined ++ body.names) state.isLive := by
        rw [restIh]
        exact Outline.liveness_congr (append inside body) _ _
      rw [Outline.lines, Outline.liveness, reports, admits_test, step_test, reports_append, reports,
        step_endif atEnd, first, later, Directive.ofLine_endif]
      simp only [admits]
  | branches test body elseTail otherwise endTail rest bodyIh otherwiseIh restIh =>
      let inFirst : Conditions := { state with blocks := test.block state.defined :: state.blocks }
      let inSecond : Conditions :=
        { inFirst.after body.lines with
          blocks := (test.block state.defined).flip :: state.blocks }
      have atElse : (inFirst.after body.lines).blocks = test.block state.defined :: state.blocks :=
        blocks_after inFirst body
      have atEnd : (inSecond.after otherwise.lines).blocks =
          (test.block state.defined).flip :: state.blocks :=
        blocks_after inSecond otherwise
      have between (name : String) : name ∈ inSecond.defined ↔ name ∈ state.defined ++ body.names :=
        append inFirst body name
      have below (name : String) : name ∈ (inSecond.after otherwise.lines).defined ↔
          name ∈ state.defined ++ body.names ++ otherwise.names := by
        rw [append, List.mem_append, between, ← List.mem_append]
      have first : inFirst.reports body.lines =
          body.liveness state.defined (test.selects state.defined true) := by
        rw [bodyIh, isLive_eq rfl, Test.isLive_block]
      have second : inSecond.reports otherwise.lines =
          otherwise.liveness (state.defined ++ body.names) (test.selects state.defined false) := by
        rw [otherwiseIh, isLive_eq rfl, Test.isLive_flip_block, Outline.liveness_congr between]
      have later : ({ inSecond.after otherwise.lines with blocks := state.blocks } :
          Conditions).reports rest.lines =
            rest.liveness (state.defined ++ body.names ++ otherwise.names) state.isLive := by
        rw [restIh]
        exact Outline.liveness_congr below _ _
      rw [Outline.lines, Outline.liveness, reports, admits_test, step_test, reports_append, reports,
        step_else atElse, reports_append, reports, step_endif atEnd, first, second, later,
        Directive.ofLine_else, Directive.ofLine_endif]
      simp only [admits]

end Conditions

/--
The preprocessor reports the lines of an outline as the outline is evaluated,
with any blanks around them and in any state: a directive never counts, and a
line of code counts if the innermost block around it selects its branch, or is
not tested; outside all blocks of the outline it counts if code counts there.
The names that the outline defines are added, whether they stand in a branch
that counts or not, and the open blocks are those from before.
-/
theorem outline_reported (state : Conditions) (outline : Outline) {lines : List String}
    (spelled : lines.map trim = outline.lines.map trim) :
    state.reports lines = outline.liveness state.defined state.isLive ∧
      (∀ name, (state.after lines).isDefined name = true ↔
        state.isDefined name = true ∨ name ∈ outline.names) ∧
      (state.after lines).blocks = state.blocks := by
  rw [Conditions.reports_congr spelled, Conditions.after_congr spelled]
  refine ⟨state.reports_outline outline, fun name => ?_, state.blocks_after outline⟩
  rw [Conditions.isDefined, Conditions.isDefined, List.contains_iff_mem, List.contains_iff_mem,
    Conditions.mem_defined_after]

/-- A header with a guard, and in it a block with two branches that tests the guard. -/
def guardOutline : Outline :=
  .block (.ifNotDefined "GUARD_H" (by decide))
    (.code "a" (by decide)
      (.define "GUARD_H" (by decide)
        (.define "VERSION 3" (by decide)
          (.branches (.ifDefined "GUARD_H" (by decide)) (.code "b" (by decide) .nil) " // guarded"
            (.define "LATE" (by decide) (.code "c" (by decide) .nil)) "" .nil))))
    " // GUARD_H" (.code "d" (by decide) .nil)

/-- The lines of `guardOutline` with an indentation. -/
def guardLines : List String :=
  ["#ifndef GUARD_H", "a", "#define GUARD_H", "#define VERSION 3", "\t#ifdef GUARD_H", "\t\tb",
    "\t#else // guarded", "\t\t#define LATE", "\t\tc", "\t#endif", "#endif // GUARD_H ", "d"]

/-- A state in the middle of an inactive block. -/
def inactiveState : Conditions :=
  { given := ["TOOLS"], defined := ["TOOLS"], blocks := [.tested false] }

theorem guardOutline_reported :
    guardLines.map trim = guardOutline.lines.map trim ∧
      inactiveState.reports guardLines =
        [false, true, false, false, false, true, false, false, false, false, false, false] ∧
      (∀ name, (inactiveState.after guardLines).isDefined name = true ↔
        name = "TOOLS" ∨ name = "GUARD_H" ∨ name = "LATE") ∧
      (inactiveState.after guardLines).blocks = [.tested false] := by
  have spelled : guardLines.map trim = guardOutline.lines.map trim := by decide +kernel
  have evaluated : guardOutline.liveness inactiveState.defined inactiveState.isLive =
      [false, true, false, false, false, true, false, false, false, false, false, false] := by
    decide +kernel
  have names : guardOutline.names = ["GUARD_H", "LATE"] := by decide +kernel
  rcases outline_reported inactiveState guardOutline spelled with ⟨reports, defined, blocks⟩
  refine ⟨spelled, reports.trans evaluated, fun name => ?_, blocks⟩
  rw [defined, names]
  simp [Conditions.isDefined, inactiveState]

end HeaderBindings.Preprocessor
