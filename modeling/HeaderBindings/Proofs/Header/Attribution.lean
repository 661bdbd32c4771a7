import HeaderBindings.Proofs.Header.ClassBody
import HeaderBindings.Proofs.Header.Effect

/-!
# Declarations and the class that they are added to

The functions and enums of a class are those that the lines of its body declare,
one for each line with a marker and in the order of the lines.  The body goes on
until a line names another class.  So a declaration belongs to the class marker
nearest above it, unless the class after that marker cannot be recognized: such
a marker is passed over, and the declarations below it are added to the class
that is still open.
-/

namespace HeaderBindings.Header

deriving instance DecidableEq for LineContext
deriving instance DecidableEq for ClassBody

/-- Nothing of a class but its name and its kind takes part in reading a function of it. -/
theorem parseFunction_congr {owner other : Class}
    (sameName : owner.name = other.name) (sameKind : owner.kind = other.kind) :
    parseFunction owner = parseFunction other := by
  funext replacements declaration
  have singleton : owner.isSingleton = other.isSingleton := by
    rw [Class.isSingleton, Class.isSingleton, sameKind]
  have selfReturn : readSelfReturn owner = readSelfReturn other := by
    funext function type
    rw [readSelfReturn, readSelfReturn, singleton, sameName, sameKind]
  rw [parseFunction, parseFunction, singleton, selfReturn, sameName]

namespace LineContext

variable {context : LineContext} {owner extended : Class}

/-- A class has a function that a line declares. -/
def DeclaresFunction (c : Class) (context : LineContext) (f : Function) : Prop :=
  ∃ declaration g, context.declaration? argumentsClosed = some declaration ∧
    parseFunction c context.options.replacements declaration = .ok g ∧
    f = documented g context.docs.1

/-- A class has an enum that a line declares. -/
def DeclaresEnum (context : LineContext) (e : EnumType) : Prop :=
  ∃ declaration, context.declaration? (Text.contains · "\x7d") = some declaration ∧
    parseEnum declaration = .ok e

/-- Whether a line exposes an item of a class. -/
def exposes (item : Item) (context : LineContext) : Bool :=
  (readMarker context.line).1 == some item.marker

/-- Whether a line has the marker of a class, whether a class can be recognized after it or not. -/
def marksClass (context : LineContext) : Bool :=
  match (readMarker context.line).1 with
  | some (.classOpen _) => true
  | _ => false

theorem marksClass_of_opened? {first : Class} (opens : context.opened? = some first) :
    context.marksClass = true := by
  rw [opened?] at opens
  split at opens
  · rename_i marked
    rw [marksClass, marked]
  · cases opens

theorem opened?_of_exposes {item : Item} (exposed : context.exposes item = true) :
    context.opened? = none := by
  rw [exposes, beq_iff_eq] at exposed
  rw [opened?]
  split
  · rename_i marked
    rw [marked] at exposed
    cases item <;> cases exposed
  · rfl

theorem extend?_item {item : Item} (exposed : context.exposes item = true) :
    context.extend? owner =
      (context.declaration? item.isComplete).bind
        (item.add context.options.replacements context.docs.1 owner) := by
  have effect := context.effect_inside (opened?_of_exposes exposed) owner
  rw [effect_item item (beq_iff_eq.mp exposed)] at effect
  exact (Option.map_injective (fun _ _ same => by simpa using same) effect).symm

/-- What a line adds to the class that is open. -/
inductive Extends (context : LineContext) (owner : Class) : Class → Prop where
  | nothing {extended : Class} (noFunction : context.exposes .function = false)
      (noEnum : context.exposes .enumeration = false)
      (name : extended.name = owner.name) (kind : extended.kind = owner.kind)
      (functions : extended.functions = owner.functions)
      (enums : extended.enums = owner.enums) : Extends context owner extended
  | function {f : Function} (exposed : context.exposes .function = true)
      (declares : context.DeclaresFunction owner f) :
      Extends context owner { owner with functions := owner.functions ++ [f] }
  | enumeration {e : EnumType} (exposed : context.exposes .enumeration = true)
      (declares : context.DeclaresEnum e) :
      Extends context owner { owner with enums := owner.enums ++ [e] }

theorem extends_of_extend? (opensNone : context.opened? = none)
    (extension : context.extend? owner = some extended) : context.Extends owner extended := by
  cases function : context.exposes .function with
  | true =>
      rw [extend?_item function] at extension
      rcases Option.bind_eq_some_iff.mp extension with ⟨declaration, joined, added⟩
      rw [Item.add, Option.map_eq_some_iff] at added
      rcases added with ⟨g, parsed, rfl⟩
      exact .function function ⟨declaration, g, joined, Outcome.toOption_eq_some_iff.mp parsed, rfl⟩
  | false =>
      cases enumeration : context.exposes .enumeration with
      | true =>
          rw [extend?_item enumeration] at extension
          rcases Option.bind_eq_some_iff.mp extension with ⟨declaration, joined, added⟩
          rw [Item.add, Option.map_eq_some_iff] at added
          rcases added with ⟨e, parsed, rfl⟩
          exact .enumeration enumeration
            ⟨declaration, joined, Outcome.toOption_eq_some_iff.mp parsed⟩
      | false =>
          cases context.adds_of_extend? opensNone extension with
          | nothing => exact .nothing function enumeration rfl rfl rfl rfl
          | docs =>
              rename_i name _
              rcases context.notePlain_eq owner name with ⟨docs, equal⟩
              rw [equal]
              exact .nothing function enumeration rfl rfl rfl rfl
          | enumeration marked =>
              rw [exposes, marked] at enumeration
              cases enumeration
          | function marked =>
              rw [exposes, marked] at function
              cases function

theorem exposes_eq_false {item other : Item} (different : item ≠ other)
    (exposed : context.exposes item = true) : context.exposes other = false := by
  rw [exposes, beq_iff_eq] at exposed
  rw [exposes, exposed, beq_eq_false_iff_ne]
  cases item <;> cases other <;> simp_all [Item.marker]

theorem DeclaresFunction.congr {c other : Class} {f : Function}
    (declares : context.DeclaresFunction c f)
    (sameName : c.name = other.name) (sameKind : c.kind = other.kind) :
    context.DeclaresFunction other f := by
  rcases declares with ⟨declaration, g, joined, parsed, isDocumented⟩
  rw [parseFunction_congr sameName sameKind] at parsed
  exact ⟨declaration, g, joined, parsed, isDocumented⟩

end LineContext

/-! ## Bodies -/

/-- What a class has gained over lines since it was `owner`: each line with the marker of an item adds
the item that it declares, and no other line adds one. -/
structure Gains (owner : Class) (members : List LineContext) (c : Class) : Prop where
  name : c.name = owner.name
  kind : c.kind = owner.kind
  functions : ∃ added, c.functions = owner.functions ++ added ∧
    List.Forall₂ (LineContext.DeclaresFunction c)
      (members.filter (LineContext.exposes .function)) added
  enums : ∃ added, c.enums = owner.enums ++ added ∧
    List.Forall₂ LineContext.DeclaresEnum
      (members.filter (LineContext.exposes .enumeration)) added

theorem gains_of_grown? {owner c : Class} {members : List LineContext}
    (openNone : ∀ context ∈ members, context.opened? = none)
    (grown : grown? owner members = some c) : Gains owner members c := by
  induction members generalizing owner with
  | nil =>
      cases grown
      exact ⟨rfl, rfl, ⟨[], (List.append_nil _).symm, .nil⟩, ⟨[], (List.append_nil _).symm, .nil⟩⟩
  | cons context rest ih =>
      rcases List.forall_mem_cons.mp openNone with ⟨opensNone, restOpenNone⟩
      rcases grown?_cons.mp grown with ⟨extended, extension, grown⟩
      have later := ih restOpenNone grown
      rcases later.functions with ⟨functions, areFunctions, declareFunctions⟩
      rcases later.enums with ⟨enums, areEnums, declareEnums⟩
      cases context.extends_of_extend? opensNone extension with
      | nothing noFunction noEnum name kind sameFunctions sameEnums =>
          refine ⟨later.name.trans name, later.kind.trans kind, ⟨functions, ?_, ?_⟩, ⟨enums, ?_, ?_⟩⟩
          · rw [areFunctions, sameFunctions]
          · rwa [List.filter_cons_of_neg (by simp [noFunction])]
          · rw [areEnums, sameEnums]
          · rwa [List.filter_cons_of_neg (by simp [noEnum])]
      | @function f exposed declares =>
          have noEnum : context.exposes .enumeration = false :=
            LineContext.exposes_eq_false (by decide) exposed
          refine ⟨later.name, later.kind, ⟨f :: functions, ?_, ?_⟩, ⟨enums, areEnums, ?_⟩⟩
          · rw [areFunctions, List.append_assoc]
            rfl
          · rw [List.filter_cons_of_pos exposed]
            exact .cons (declares.congr later.name.symm later.kind.symm) declareFunctions
          · rwa [List.filter_cons_of_neg (by simp [noEnum])]
      | @enumeration e exposed declares =>
          have noFunction : context.exposes .function = false :=
            LineContext.exposes_eq_false (by decide) exposed
          refine ⟨later.name, later.kind, ⟨functions, areFunctions, ?_⟩, ⟨e :: enums, ?_, ?_⟩⟩
          · rwa [List.filter_cons_of_neg (by simp [noFunction])]
          · rw [areEnums, List.append_assoc]
            rfl
          · rw [List.filter_cons_of_pos exposed]
            exact .cons declares declareEnums

/-- The functions and the enums of a class are those that the lines of a body declare. -/
structure ClassBody.Holds (body : ClassBody) (c : Class) : Prop where
  functions : List.Forall₂ (LineContext.DeclaresFunction c)
    (body.members.filter (LineContext.exposes .function)) c.functions
  enums : List.Forall₂ LineContext.DeclaresEnum
    (body.members.filter (LineContext.exposes .enumeration)) c.enums

/-- The nearest line with the marker of a class, above a line. -/
def nearestClassMarker? (above : List LineContext) : Option LineContext :=
  above.findRev? LineContext.marksClass

section Bodies

variable {lives : List LineContext} {body : ClassBody} {c : Class}

theorem holds_of_mem_bodies (member : body ∈ bodies lives) (declared : body.class? = some c) :
    body.Holds c := by
  rcases Option.bind_eq_some_iff.mp declared with ⟨first, opens, grown⟩
  have openNone := opensNone_of_mem_bodies member
  have bare : first.functions = [] ∧ first.enums = [] := by
    rw [LineContext.opened?] at opens
    split at opens
    · rcases Option.map_eq_some_iff.mp opens with ⟨name, _, rfl⟩
      rw [LineContext.openClass]
      split <;> exact ⟨rfl, rfl⟩
    · cases opens
  have gains := gains_of_grown? openNone grown
  rcases gains.functions with ⟨functions, areFunctions, declareFunctions⟩
  rcases gains.enums with ⟨enums, areEnums, declareEnums⟩
  rw [bare.1, List.nil_append] at areFunctions
  rw [bare.2, List.nil_append] at areEnums
  exact ⟨areFunctions ▸ declareFunctions, areEnums ▸ declareEnums⟩

/-- The line that opens a class is the nearest one with a class marker as long as no line of the body
has one. -/
theorem nearestClassMarker?_eq_opening (before : List LineContext) {opening : LineContext}
    {front : List LineContext} {first : Class} (opens : opening.opened? = some first)
    (openNone : ∀ context ∈ front, context.opened? = none) :
    nearestClassMarker? (before ++ opening :: front) = some opening ↔
      ∀ skipped ∈ front, skipped.marksClass = false := by
  rw [nearestClassMarker?, List.findRev?_eq_find?_reverse, List.reverse_append,
    List.reverse_cons, List.append_assoc, List.find?_append]
  cases found : front.reverse.find? LineContext.marksClass with
  | none =>
      have unmarked : ∀ skipped ∈ front, skipped.marksClass = false := by
        simpa using found
      have isFirst := LineContext.marksClass_of_opened? opens
      simp only [Option.none_or, List.singleton_append, List.find?_cons, isFirst, true_iff]
      exact unmarked
  | some skipped =>
      have inFront : skipped ∈ front := List.mem_reverse.mp (List.mem_of_find?_eq_some found)
      have marked : skipped.marksClass = true := List.find?_some found
      rw [Option.some_or, Option.some.injEq]
      constructor
      · rintro rfl
        rw [openNone _ inFront] at opens
        cases opens
      · intro unmarked
        rw [unmarked skipped inFront] at marked
        cases marked

end Bodies

/--
Every class that a scan completes holds the functions and the enums that the
lines of its body declare, each for one line with its marker.  The nearest class
marker above such a line is the one that opened the class exactly if no class
marker that stands between them was passed over.
-/
theorem scan_attributes (options : Options) (header source : String) {c : Class}
    (completed : Finding.complete c ∈ (scan options header source).findings) :
    ∃ body ∈ bodies (liveLines options header source),
      body.class? = some c ∧ body.Holds c ∧
      ∃ before after,
        liveLines options header source = before ++ body.opening :: (body.members ++ after) ∧
        ∀ front line back, body.members = front ++ line :: back →
          (nearestClassMarker? (before ++ body.opening :: front) = some body.opening ↔
            ∀ skipped ∈ front, skipped.marksClass = false) := by
  have member : c ∈ (scan options header source).outcome.1 := mem_classesOf.mpr completed
  rw [outcome_scan] at member
  rcases List.mem_map.mp (mem_readable member) with ⟨body, inBodies, declared⟩
  rcases stretch_of_mem_bodies inBodies with ⟨before, after, split, _⟩
  refine ⟨body, inBodies, declared, holds_of_mem_bodies inBodies declared, before, after, split, ?_⟩
  intro front line back members
  rcases Option.bind_eq_some_iff.mp declared with ⟨first, opens, _⟩
  refine nearestClassMarker?_eq_opening before opens fun context inFront => ?_
  apply opensNone_of_mem_bodies inBodies
  rw [members]
  exact List.mem_append_left _ inFront

/-- The lines of a header with two classes, the second of which is not recognized after its
marker. -/
def skippedTexts : List String :=
  ["NAPI_CLASS class A \x7b", "NAPI void f();", "\x7d;", "NAPI_CLASS EXPORT class B \x7b",
    "NAPI void g();", "\x7d;"]

/-- The header with the lines `skippedTexts`. -/
def skippedHeader : String :=
  Text.joinWith "\n" skippedTexts

/-- The class that `skippedHeader` declares. -/
def skippedClass : Class where
  name := "A"
  kind := .regular
  functions := ["f", "g"].map fun name =>
    { name, symbol := "A_" ++ name, args := [.receiver], result := .void }

theorem complete_skippedClass :
    Finding.complete skippedClass ∈ (scan {} "a.h" skippedHeader).findings := by
  decide +kernel

theorem skippedHeader_attributes :
    Finding.complete skippedClass ∈ (scan {} "a.h" skippedHeader).findings ∧
      ∃ body ∈ bodies (liveLines {} "a.h" skippedHeader),
        body.class? = some skippedClass ∧ body.Holds skippedClass ∧
        ∃ before after,
          liveLines {} "a.h" skippedHeader = before ++ body.opening :: (body.members ++ after) ∧
          ∀ front line back, body.members = front ++ line :: back →
            (nearestClassMarker? (before ++ body.opening :: front) = some body.opening ↔
              ∀ skipped ∈ front, skipped.marksClass = false) :=
  ⟨complete_skippedClass, scan_attributes {} "a.h" skippedHeader complete_skippedClass⟩

/-- A line of `skippedHeader`, by its place. -/
def skippedLine (place : Nat) : LineContext where
  options := {}
  header := "a.h"
  number := place + 1
  above := (skippedTexts.take place).reverse
  line := skippedTexts.getD place ""
  below := skippedTexts.drop (place + 1)

/-- The body of the class in `skippedHeader`. -/
def skippedBody : ClassBody where
  opening := skippedLine 0
  members := [1, 2, 3, 4, 5].map skippedLine

theorem bodies_skippedHeader : bodies (liveLines {} "a.h" skippedHeader) = [skippedBody] := by
  have lines : liveLines {} "a.h" skippedHeader = [0, 1, 2, 3, 4, 5].map skippedLine := by
    decide +kernel
  rw [lines]
  decide +kernel

/-- A function can be added to a class above a class marker that stands between. -/
theorem members_not_always_own :
    ¬ ∀ (options : Options) (header source : String) (c : Class),
      Finding.complete c ∈ (scan options header source).findings →
        ∃ body ∈ bodies (liveLines options header source),
          body.class? = some c ∧
          ∃ before after,
            liveLines options header source = before ++ body.opening :: (body.members ++ after) ∧
            ∀ item front line back, body.members = front ++ line :: back →
              line.exposes item = true →
              nearestClassMarker? (before ++ body.opening :: front) = some body.opening := by
  intro always
  rcases always {} "a.h" skippedHeader skippedClass complete_skippedClass with
    ⟨body, inBodies, _, before, after, _, own⟩
  rw [bodies_skippedHeader, List.mem_singleton] at inBodies
  subst inBodies
  -- the marker of the second class stands between the line that opens the first one and its `g`
  have nearest := own .function [skippedLine 1, skippedLine 2, skippedLine 3] (skippedLine 4)
    [skippedLine 5] rfl (by decide +kernel)
  have opens : skippedBody.opening.opened? = some { name := "A", kind := .regular } := by
    decide +kernel
  have openNone : ∀ context ∈ [skippedLine 1, skippedLine 2, skippedLine 3],
      context.opened? = none := by
    decide +kernel
  have unmarked := (nearestClassMarker?_eq_opening before opens openNone).mp nearest
  exact absurd unmarked (by decide +kernel)

end HeaderBindings.Header
