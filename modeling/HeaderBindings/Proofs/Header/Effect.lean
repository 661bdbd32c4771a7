import HeaderBindings.Proofs.Header.InactiveLines
import HeaderBindings.Proofs.Header.Independence

/-!
# What a live line means for the interface

The effect of a live line on the class that is open rests on the line, on the
documentation above it if the line takes any, and on the declaration that
starts there if the line declares something.  The numbers of the lines serve
notices only.
-/

namespace HeaderBindings.Header

open Preprocessor (Conditions Directive)

/-- What is declared inside a class with a marker of its own. -/
inductive Item where
  | function
  | enumeration
  deriving Repr, DecidableEq

namespace Item

def marker : Item → Marker
  | .function => .function
  | .enumeration => .enumeration

/-- When a declaration is complete. -/
def isComplete : Item → String → Bool
  | .function => argumentsClosed
  | .enumeration => (Text.contains · "\x7d")

/-- The class with the declared item, if the declaration can be read. -/
def add (item : Item) (replacements : List (String × String)) (docs : Docs) (owner : Class)
    (declaration : String) : Option Class :=
  match item with
  | .function =>
    (parseFunction owner replacements declaration).toOption.map fun f =>
      { owner with functions := owner.functions ++ [LineContext.documented f docs] }
  | .enumeration =>
    (parseEnum declaration).toOption.map fun e => { owner with enums := owner.enums ++ [e] }

end Item

namespace LineContext

variable {context left right : LineContext} {current : Option Class}

theorem addEnum_toOption (context : LineContext) (owner : Class) :
    (context.addEnum owner).toOption =
      (context.declaration? Item.enumeration.isComplete).bind
        (Item.enumeration.add context.options.replacements context.docs.1 owner) := by
  rw [addEnum, Item.isComplete]
  cases context.declaration? (Text.contains · "\x7d") with
  | none => rfl
  | some declaration =>
      dsimp only [Option.bind_some, Item.add]
      cases parseEnum declaration <;> rfl

theorem addFunction_toOption (context : LineContext) (owner : Class) :
    (context.addFunction owner).toOption =
      (context.declaration? Item.function.isComplete).bind
        (Item.function.add context.options.replacements context.docs.1 owner) := by
  rw [addFunction, Item.isComplete]
  cases context.declaration? argumentsClosed with
  | none => rfl
  | some declaration =>
      dsimp only [Option.bind_some, Item.add]
      cases parseFunction owner context.options.replacements declaration <;> rfl

theorem effect_item (item : Item) (marked : (readMarker context.line).1 = some item.marker) :
    context.effect current =
      match current with
      | none => some ([], none)
      | some owner =>
        ((context.declaration? item.isComplete).bind
          (item.add context.options.replacements context.docs.1 owner)).map
            fun extended => ([], some extended) := by
  unfold effect read
  generalize readMarker context.line = reading at marked ⊢
  rcases reading with ⟨marker, rest⟩
  obtain rfl : marker = some item.marker := marked
  cases current with
  | none => cases item <;> rfl
  | some owner =>
      cases item with
      | function =>
          dsimp only [Item.marker]
          rw [Outcome.toOption_map, Option.map_map, addFunction_toOption]
          congr 1
          funext extended
          simp
      | enumeration =>
          dsimp only [Item.marker]
          rw [Outcome.toOption_map, Option.map_map, addEnum_toOption]
          rfl

theorem effect_plain (plain : (readMarker context.line).1 = none)
    (undocumented : ∀ lines, context.docs.1 ≠ .block lines) :
    context.effect current = some ([], current) := by
  unfold effect read
  generalize readMarker context.line = reading at plain ⊢
  rcases reading with ⟨marker, rest⟩
  obtain rfl : marker = none := plain
  cases current with
  | none => rfl
  | some owner =>
      dsimp only
      cases plainDeclaration? context.line with
      | none => rfl
      | some declared =>
          have unchanged : context.notePlain owner declared = owner := by
            rw [notePlain]
            split
            · rename_i lines documented
              exact absurd documented (undocumented lines)
            · rfl
          simp [Except.toOption, unchanged]

theorem effect_item_congr (item : Item)
    (marked : (readMarker left.line).1 = some item.marker)
    (otherMarked : (readMarker right.line).1 = some item.marker)
    (options : left.options = right.options)
    (docs : item = .function → current.isSome = true → left.docs.1 = right.docs.1)
    (declaration : current.isSome = true →
      left.declaration? item.isComplete = right.declaration? item.isComplete) :
    left.effect current = right.effect current := by
  rw [effect_item item marked, effect_item item otherMarked]
  cases current with
  | none => rfl
  | some owner =>
      rw [declaration rfl, options]
      cases item with
      | function => rw [docs rfl rfl]
      | enumeration => rfl

/-- A live line has the same effect in surroundings that agree on what the line takes up. -/
theorem effect_congr
    (options : left.options = right.options)
    (line : left.line = right.line)
    (docs : takesDocs current.isSome left.line = true → left.docs.1 = right.docs.1)
    (declaration : ∀ done, completion? current.isSome left.line = some done →
      left.declaration? done = right.declaration? done) :
    left.effect current = right.effect current := by
  cases marked : readMarker left.line with
  | mk marker rest =>
      have otherMarked : readMarker right.line = (marker, rest) := by rw [← line, marked]
      simp only [takesDocs, opensClass, marked] at docs
      simp only [completion?, marked] at declaration
      cases marker with
      | none =>
          unfold effect read
          rw [marked, otherMarked]
          cases current with
          | none => rfl
          | some owner =>
              dsimp only
              rw [← line]
              cases declared : plainDeclaration? left.line with
              | none => rfl
              | some name =>
                  have same := docs (by simp [declared])
                  simp [notePlain, same, Except.toOption]
      | some marker =>
          cases marker with
          | classOpen kind =>
              unfold effect read
              rw [marked, otherMarked]
              cases declared : declaredClass? rest with
              | none => simp [declared, classesOf, Except.toOption]
              | some name =>
                  have same := docs (by simp [declared])
                  simp [declared, openClass, same, Except.toOption]
          | enumeration =>
              apply effect_item_congr .enumeration (by rw [marked]; rfl) (by rw [otherMarked]; rfl)
                options
              · intro isFunction
                cases isFunction
              · exact fun isOpen => declaration _ (by rw [if_pos isOpen]; rfl)
          | function =>
              apply effect_item_congr .function (by rw [marked]; rfl) (by rw [otherMarked]; rfl)
                options
              · exact fun _ isOpen => docs isOpen
              · exact fun isOpen => declaration _ (by rw [if_pos isOpen]; rfl)

theorem isSome_of_effect {completed : List Class} {next : Option Class}
    (effect : context.effect current = some (completed, next)) :
    next.isSome = (current.isSome || opensClass context.line) := by
  rcases Option.map_eq_some_iff.mp effect with ⟨⟨findings, after⟩, read, equal⟩
  cases equal
  apply isSome_of_read
  cases outcome : context.read current with
  | error failure => simp [outcome, Except.toOption] at read
  | ok result => simpa [outcome, Except.toOption] using read

end LineContext

/-- Two scans agree in their outcome if a line has the same effect in both and what is scanned
after it has the same outcome. -/
theorem outcome_scanLines_cons
    {options : Options} {header : String} {conditions : Conditions} {current : Option Class}
    {line : String} {leftAbove rightAbove leftBelow rightBelow : List String}
    (sameEffect : conditions.admits (Directive.ofLine line) = true →
      LineContext.effect
          ⟨options, header, leftAbove.length + 1, leftAbove, line, leftBelow⟩ current =
        LineContext.effect
          ⟨options, header, rightAbove.length + 1, rightAbove, line, rightBelow⟩ current)
    (onwards : ∀ next : Option Class,
      next.isSome =
          (current.isSome || (conditions.admits (Directive.ofLine line) && opensClass line)) →
      (scanLines options header (line :: leftAbove)
          (conditions.step (Directive.ofLine line)) next leftBelow).outcome =
        (scanLines options header (line :: rightAbove)
          (conditions.step (Directive.ofLine line)) next rightBelow).outcome) :
    (scanLines options header leftAbove conditions current (line :: leftBelow)).outcome =
      (scanLines options header rightAbove conditions current (line :: rightBelow)).outcome := by
  cases live : conditions.admits (Directive.ofLine line) with
  | true =>
      rw [outcome_scanLines_live live, outcome_scanLines_live live, ← sameEffect live]
      cases effect : LineContext.effect
          ⟨options, header, leftAbove.length + 1, leftAbove, line, leftBelow⟩ current with
      | none => rfl
      | some result =>
          rcases result with ⟨completed, next⟩
          dsimp only
          rw [onwards next (by rw [LineContext.isSome_of_effect effect, live, Bool.true_and])]
  | false =>
      rw [outcome_scanLines_inactive live, outcome_scanLines_inactive live]
      exact onwards current (by simp [live])

end HeaderBindings.Header
