import HeaderBindings.Proofs.Header.Prototype

/-!
# The heading of a declaration

What stands in front of an argument list decides the name and the result of a
function.  Once it is known to be well formed, the declaration can be read
exactly if its list ends, can be split, and has arguments that are read and
grouped one after the other.
-/

namespace HeaderBindings.Header

open Text (isBlank isWord)

/-- Each argument is read by itself, at its position, and has a type that is not refused. -/
theorem parseArguments_eq_ok_iff
    {replacements : List (String × String)} {function : String} {position : Nat}
    {texts : List String} {values : List Argument} :
    parseArguments replacements function position texts = .ok values ↔
      values = texts.mapIdx (fun i text => parseArgument replacements (position + i) text) ∧
        ∀ arg ∈ values, refusedPart? arg.type = none := by
  induction texts generalizing position values with
  | nil =>
      rw [parseArguments, List.mapIdx_nil, Except.ok.injEq]
      constructor
      · rintro rfl
        simp
      · rintro ⟨rfl, -⟩
        rfl
  | cons text texts ih =>
      have shifted : (fun i text => parseArgument replacements (position + (i + 1)) text) =
          fun i text => parseArgument replacements (position + 1 + i) text := by
        funext i text
        rw [Nat.add_assoc, Nat.add_comm 1 i]
      rw [parseArguments, List.mapIdx_cons, shifted]
      simp only [Nat.add_zero]
      cases refused : refusedPart? (parseArgument replacements position text).type with
      | some part =>
          simp only [reduceCtorEq, false_iff, not_and]
          rintro rfl allowed
          rw [allowed _ List.mem_cons_self] at refused
          cases refused
      | none =>
          dsimp only
          rw [Outcome.map_eq_ok_iff]
          constructor
          · rintro ⟨later, read, rfl⟩
            rcases ih.mp read with ⟨equal, allowed⟩
            exact ⟨by rw [equal], List.forall_mem_cons.mpr ⟨refused, allowed⟩⟩
          · rintro ⟨rfl, allowed⟩
            exact ⟨_, ih.mpr ⟨rfl, (List.forall_mem_cons.mp allowed).2⟩, rfl⟩

/-- The result type and the name in front of an argument list. -/
structure Heading where
  result : String
  name : String

namespace Heading

variable (heading : Heading)

def text : String :=
  heading.result ++ " " ++ heading.name ++ "("

def resultType : String :=
  Header.resultType heading.result.toList

/-- The function of a class that has this heading, with its value arguments and their groups. -/
def function (owner : Class) (values : List Argument) (groups : List ArrayGroup) : Function where
  name := heading.name
  symbol := owner.name ++ "_" ++ heading.name
  args := owner.kind.receivers ++ values
  result := {
    type := heading.resultType
    abiType := Typing.withoutReference heading.resultType }
  arrayGroups := groups

/-- The heading is that of a function of a class, which does not return its receiver. -/
@[mk_iff]
structure WellFormed (owner : Class) : Prop where
  name : isName heading.name = true
  result : heading.resultType ≠ ""
  noParen : '(' ∉ heading.result.toList
  allowed : refusedPart? heading.resultType = none
  ownResult : ¬ StandsForReceiver owner heading.name heading.resultType

instance (owner : Class) : Decidable (heading.WellFormed owner) :=
  decidable_of_iff' _ (heading.wellFormed_iff owner)

variable {heading}

namespace WellFormed

variable {owner : Class} (wellFormed : heading.WellFormed owner)
include wellFormed

theorem functionName?_text (inside : String) :
    functionName? (heading.text ++ inside) =
      some ⟨heading.result.toList ++ [' '], heading.name.toList, '(' :: inside.toList⟩ := by
  have chars : (heading.text ++ inside).toList =
      (heading.result.toList ++ [' ']) ++ (heading.name.toList ++ '(' :: inside.toList) := by
    simp [text]
  have apart : (heading.result.toList ++ [' ']).getLast?.any isWord = false := by
    rw [List.getLast?_concat]
    rfl
  have noParen : '(' ∉ heading.result.toList ++ [' '] := by
    rw [List.mem_append]
    rintro (inResult | inBlank)
    · exact wellFormed.noParen inResult
    · exact absurd inBlank (by decide)
  rw [functionName?, chars]
  exact find?_followed (nonempty_of_isName wellFormed.name) (isWord_of_isName wellFormed.name)
    apart noParen (by decide) rfl

/-- With a heading that is well formed, a declaration is read if its argument list is. -/
theorem parseFunction_eq_ok_iff
    {replacements : List (String × String)} {inside : String} {f : Function} :
    parseFunction owner replacements (heading.text ++ inside) = .ok f ↔
      ∃ list after pieces values groups,
        toClosingParen? 0 inside.toList = some (list, after) ∧
        splitArguments (.ofList list) = .ok pieces ∧
        parseArguments replacements heading.name owner.kind.receivers.length pieces = .ok values ∧
        Typing.arrayGroups heading.name (owner.kind.receivers ++ values) = .ok groups ∧
        f = heading.function owner values groups := by
  have opened : (('(' :: inside.toList).dropWhile isBlank).tail = inside.toList :=
    rfl
  have declared : Header.resultType (heading.result.toList ++ [' ']) = heading.resultType :=
    resultType_blank (by decide) heading.result.toList
  have nonempty : heading.resultType.isEmpty = false := by
    rw [Bool.eq_false_iff, Ne, String.isEmpty_iff]
    exact wellFormed.result
  have receivers : (if owner.isSingleton then [] else [Argument.receiver]) =
      owner.kind.receivers :=
    rfl
  unfold parseFunction
  rw [wellFormed.functionName?_text]
  dsimp only
  rw [opened]
  cases toClosingParen? 0 inside.toList with
  | none => simp
  | some sides =>
      dsimp only
      rw [String.ofList_toList, declared, nonempty, receivers,
        readSelfReturn_eq_false wellFormed.ownResult, if_neg Bool.false_ne_true]
      simp only [Outcome.bind_eq_ok_iff, Outcome.mapError_eq_ok_iff, wellFormed.allowed,
        Except.ok.injEq, exists_eq_left', Bool.false_eq_true, if_false, Option.some.injEq]
      constructor
      · rintro ⟨pieces, split, values, read, groups, grouped, equal⟩
        exact ⟨sides.1, sides.2, pieces, values, groups, rfl, split, read, grouped,
          (Except.ok.inj equal).symm⟩
      · rintro ⟨list, after, pieces, values, groups, rfl, split, read, grouped, rfl⟩
        exact ⟨pieces, split, values, read, groups, grouped, rfl⟩

end WellFormed

end Heading

end HeaderBindings.Header
