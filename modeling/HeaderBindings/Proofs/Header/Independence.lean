import HeaderBindings.Extraction
import HeaderBindings.Proofs.Outcome
import HeaderBindings.Proofs.Preprocessor.Liveness

/-!
# Headers by themselves

What a header adds to the interface is a matter of its text and of the options.
The name of a header serves messages only, and nothing that earlier headers,
read in full or in part, do to the state of the preprocessor outlives the start
of the next one.
-/

namespace HeaderBindings.Header

open Preprocessor (Conditions Directive)

/-! ## The classes of a scan -/

/-- The classes among some findings. -/
def classesOf (findings : List Finding) : List Class :=
  findings.filterMap fun
    | .complete c => some c
    | .notice _ => none

@[simp]
theorem classesOf_append (findings more : List Finding) :
    classesOf (findings ++ more) = classesOf findings ++ classesOf more :=
  List.filterMap_append

@[simp]
theorem classesOf_notices (notices : List Notice) :
    classesOf (notices.map Finding.notice) = [] := by
  rw [classesOf, List.filterMap_eq_nil_iff]
  intro finding member
  rcases List.mem_map.mp member with ⟨notice, _, rfl⟩
  rfl

theorem mem_classesOf {findings : List Finding} {c : Class} :
    c ∈ classesOf findings ↔ Finding.complete c ∈ findings := by
  rw [classesOf, List.mem_filterMap]
  constructor
  · rintro ⟨finding, member, isClass⟩
    cases finding with
    | notice notice => cases isClass
    | complete completed =>
        cases isClass
        exact member
  · exact fun member => ⟨_, member, rfl⟩

/-- The classes that a scan hands over, in order. -/
def Scan.classes (scan : Scan) : List Class :=
  classesOf scan.findings

/-- What a scan means for the interface: the classes it hands over, and whether it failed. -/
def Scan.outcome (scan : Scan) : List Class × Bool :=
  (scan.classes, scan.failure.isSome)

theorem Scan.outcome_after (earlier : List Finding) (scan : Scan) :
    (scan.after earlier).outcome =
      (classesOf earlier ++ scan.outcome.1, scan.outcome.2) := by
  simp [outcome, classes, Scan.after]

/-- Of the findings of a scan only the classes are collected. -/
theorem collect_fst (api : Api) (findings : List Finding) :
    (collect api findings).1 = (classesOf findings).foldl Api.upsert api := by
  induction findings generalizing api with
  | nil => rfl
  | cons finding rest ih =>
      cases finding with
      | notice notice => exact ih api
      | complete c => exact ih (api.upsert c)

/-! ## The name of a header -/

namespace LineContext

/-- The line in a header of another name. -/
def named (context : LineContext) (header : String) : LineContext :=
  { context with header }

theorem addEnum_named (context : LineContext) (header : String) (owner : Class) :
    ((context.named header).addEnum owner).toOption = (context.addEnum owner).toOption := by
  have sameDeclaration :
      (context.named header).declaration? (Text.contains · "\x7d") =
        context.declaration? (Text.contains · "\x7d") :=
    rfl
  rw [addEnum, addEnum, sameDeclaration]
  cases context.declaration? (Text.contains · "\x7d") with
  | none => rfl
  | some declaration =>
      dsimp only
      cases parseEnum declaration <;> rfl

theorem addFunction_named (context : LineContext) (header : String) (owner : Class) :
    ((context.named header).addFunction owner).toOption =
      (context.addFunction owner).toOption := by
  have sameDeclaration :
      (context.named header).declaration? argumentsClosed =
        context.declaration? argumentsClosed :=
    rfl
  have sameOptions : (context.named header).options = context.options :=
    rfl
  rw [addFunction, addFunction, sameDeclaration, sameOptions]
  cases context.declaration? argumentsClosed with
  | none => rfl
  | some declaration =>
      dsimp only
      cases parseFunction owner context.options.replacements declaration <;> rfl

/-- What a live line means for the interface: the classes it completes, and the one that is open
after it. -/
def effect (context : LineContext) (current : Option Class) :
    Option (List Class × Option Class) :=
  (context.read current).toOption.map fun result => (classesOf result.1, result.2)

theorem effect_named (context : LineContext) (header : String) (current : Option Class) :
    (context.named header).effect current = context.effect current := by
  have sameLine : (context.named header).line = context.line := rfl
  unfold effect read
  rw [sameLine]
  rcases readMarker context.line with ⟨marker, rest⟩
  cases marker with
  | none =>
      cases current with
      | none => rfl
      | some owner =>
          dsimp only
          cases plainDeclaration? context.line <;> rfl
  | some marker =>
      cases marker with
      | classOpen kind =>
          dsimp only
          cases declaredClass? rest <;> rfl
      | enumeration =>
          cases current with
          | none => rfl
          | some owner =>
              dsimp only
              rw [Outcome.toOption_map, Outcome.toOption_map, addEnum_named]
      | function =>
          cases current with
          | none => rfl
          | some owner =>
              dsimp only
              rw [Outcome.toOption_map, Outcome.toOption_map, addFunction_named]
              rfl

end LineContext

section Lines

variable {options : Options} {header : String} {above : List String} {conditions : Conditions}
variable {current : Option Class} {line : String} {below : List String}

theorem outcome_scanLines_live (live : conditions.admits (Directive.ofLine line) = true) :
    (scanLines options header above conditions current (line :: below)).outcome =
      match LineContext.effect
          { options, header, number := above.length + 1, above, line, below } current with
      | none => ([], true)
      | some (completed, next) =>
        let onwards := scanLines options header (line :: above)
          (conditions.step (Directive.ofLine line)) next below
        (completed ++ onwards.outcome.1, onwards.outcome.2) := by
  rw [scanLines, LineContext.effect]
  simp only [live, if_true]
  generalize LineContext.read _ current = read
  cases read with
  | error failure => rfl
  | ok result => exact Scan.outcome_after _ _

theorem outcome_scanLines_inactive (inactive : conditions.admits (Directive.ofLine line) = false) :
    (scanLines options header above conditions current (line :: below)).outcome =
      (scanLines options header (line :: above)
        (conditions.step (Directive.ofLine line)) current below).outcome := by
  rw [scanLines]
  simp only [inactive, Bool.false_eq_true, if_false]
  rw [Scan.outcome_after, classesOf_notices, List.nil_append]

end Lines

/-- The name of a header has no part in the outcome of its scan. -/
theorem outcome_scanLines_named
    (options : Options) (header other : String) (above : List String) (conditions : Conditions)
    (current : Option Class) (lines : List String) :
    (scanLines options header above conditions current lines).outcome =
      (scanLines options other above conditions current lines).outcome := by
  induction lines generalizing above conditions current with
  | nil => rfl
  | cons line below ih =>
      cases admitted : conditions.admits (Directive.ofLine line) with
      | true =>
          -- The line in the one header is the line in the other one under another name.
          have sameEffect := LineContext.effect_named
            { options, header := other, number := above.length + 1, above, line, below }
            header current
          rw [LineContext.named] at sameEffect
          rw [outcome_scanLines_live admitted, outcome_scanLines_live admitted, sameEffect]
          split
          · rfl
          · dsimp only
            rw [ih]
      | false =>
          rw [outcome_scanLines_inactive admitted, outcome_scanLines_inactive admitted, ih]

theorem outcome_scan_named (options : Options) (header other source : String) :
    (scan options header source).outcome = (scan options other source).outcome :=
  outcome_scanLines_named options header other [] _ none _

/-! ## What earlier headers leave behind -/

/-- The states in which the preprocessor can be when a header starts: each header before it has
been read as far as some of its lines. -/
inductive LeftBehind (options : Options) : Conditions → Prop where
  | start : LeftBehind options (Conditions.ofDefinitions options.definitions)
  | header {conditions : Conditions} (lines : List String) :
      LeftBehind options conditions → LeftBehind options (conditions.reset.after lines)

/-- Whatever was read before, a header starts with the definitions from outside. -/
theorem LeftBehind.reset {options : Options} {conditions : Conditions}
    (left : LeftBehind options conditions) :
    conditions.reset = Conditions.ofDefinitions options.definitions := by
  induction left with
  | start => rfl
  | header lines _ ih => rw [Conditions.reset_after, ih, Conditions.ofDefinitions, Conditions.reset]

theorem scanLines_leftBehind
    {options : Options} {conditions : Conditions} (left : LeftBehind options conditions)
    (header source : String) :
    scanLines options header [] conditions.reset none (Text.trimmedLines source) =
      scan options header source := by
  rw [left.reset, scan]

end HeaderBindings.Header
