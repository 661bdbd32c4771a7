import HeaderBindings.Proofs.Header.DocComment
import HeaderBindings.Proofs.Interface.Accepted

/-!
# Borrowed documentation

The functions of a class are gone through once, from the first to the last, and
a function that borrows takes the documentation that its target has at that
moment.  A target above has its final documentation by then, so chains of
references that lead upwards are followed to their end.  A target below still
has what its declaration gave it: its own documentation, or nothing where it
borrows itself, and then the borrower is left without.
-/

namespace HeaderBindings

/-! ## Functions that borrow -/

namespace Resolve

/-- A function before and after the borrowing. -/
structure Passed (declared resolved : Function) : Prop where
  name : resolved.name = declared.name
  docsFrom : resolved.docsFrom = declared.docsFrom
  own : declared.docsFrom = none → resolved.docs = declared.docs

/-- A function with the documentation that it borrows from some functions of its class. -/
def borrowed (declaredDocs : List (String × List String)) (functions : List Function)
    (f : Function) : Function :=
  match f.docsFrom with
  | none => f
  | some target => { f with docs := (docsOf? functions declaredDocs target).getD f.docs }

theorem passed_borrowed (declaredDocs : List (String × List String)) (functions : List Function)
    (f : Function) : Passed f (borrowed declaredDocs functions f) := by
  rw [borrowed]
  split
  · exact ⟨rfl, rfl, fun _ => rfl⟩
  · rename_i target borrows
    exact ⟨rfl, rfl, fun none => by rw [borrows] at none; cases none⟩

/-- Borrowing treats the first function and goes on with the others. -/
theorem borrowDocs_cons (owner : Class) (settled : List Function) (f : Function)
    (rest : List Function) :
    (borrowDocs owner settled (f :: rest)).1 =
      (borrowDocs owner
        (settled ++ [borrowed owner.declaredDocs (settled ++ f :: rest) f]) rest).1 := by
  cases borrows : f.docsFrom with
  | none => simp only [borrowDocs, borrowed, borrows]
  | some target =>
      cases found : docsOf? (settled ++ f :: rest) owner.declaredDocs target with
      | none =>
          simp only [borrowDocs, borrowed, borrows, found, Option.getD_none]
          rw [← borrows]
      | some docs => simp only [borrowDocs, borrowed, borrows, found, Option.getD_some]

/-- Each function is treated between the ones above, which are settled, and the ones below, which
are as declared. -/
theorem borrowDocs_split (owner : Class) (settled before : List Function) (f : Function)
    (after : List Function) :
    ∃ before' after', (borrowDocs owner settled (before ++ f :: after)).1 =
        settled ++ before' ++
          borrowed owner.declaredDocs (settled ++ before' ++ f :: after) f :: after' ∧
      List.Forall₂ Passed before before' ∧ List.Forall₂ Passed after after' := by
  have passed (settled functions : List Function) :
      ∃ functions', (borrowDocs owner settled functions).1 = settled ++ functions' ∧
        List.Forall₂ Passed functions functions' := by
    induction functions generalizing settled with
    | nil => exact ⟨[], by simp [borrowDocs], .nil⟩
    | cons g rest ih =>
        rcases ih (settled ++ [borrowed owner.declaredDocs (settled ++ g :: rest) g]) with
          ⟨rest', equal, related⟩
        rw [borrowDocs_cons, equal, List.append_assoc]
        exact ⟨_, rfl, .cons (passed_borrowed _ _ g) related⟩
  induction before generalizing settled with
  | nil =>
      rcases passed (settled ++ [borrowed owner.declaredDocs (settled ++ f :: after) f]) after with
        ⟨after', equal, related⟩
      refine ⟨[], after', ?_, .nil, related⟩
      rw [List.nil_append, borrowDocs_cons, equal]
      simp
  | cons g before ih =>
      rcases ih (settled ++
          [borrowed owner.declaredDocs (settled ++ g :: (before ++ f :: after)) g])
        with ⟨before', after', equal, above, below⟩
      refine ⟨borrowed owner.declaredDocs (settled ++ g :: (before ++ f :: after)) g :: before',
        after', ?_, .cons (passed_borrowed _ _ g) above, below⟩
      rw [List.cons_append, borrowDocs_cons, equal]
      simp

theorem find?_passed {functions functions' : List Function}
    (related : List.Forall₂ Passed functions functions') (name : String) :
    Option.Rel Passed (functions.find? fun f => f.name == name)
      (functions'.find? fun f => f.name == name) := by
  induction related with
  | nil => exact .none
  | cons first _ ih =>
      rw [List.find?_cons, List.find?_cons, first.name]
      split
      · exact .some first
      · exact ih

/-- Of a function after the borrowing: what it was before, and what surrounded it then. -/
theorem exists_borrowed {owner : Class} {functions before after : List Function} {f : Function}
    (split : (borrowDocs owner [] functions).1 = before ++ f :: after) :
    ∃ above declared below, functions = above ++ declared :: below ∧
      f = borrowed owner.declaredDocs (before ++ declared :: below) declared ∧
      List.Forall₂ Passed above before ∧ List.Forall₂ Passed below after := by
  have sameLength : functions.length = (before ++ f :: after).length := by
    rcases borrowDocs_documented owner [] functions with ⟨documented, equal, related⟩
    rw [← split, equal, List.nil_append, related.length_eq]
  have inside : before.length < functions.length := by simp [sameLength]
  obtain ⟨above, declared, below, rfl, length⟩ : ∃ above declared below,
      functions = above ++ declared :: below ∧ above.length = before.length :=
    ⟨functions.take before.length, functions[before.length], functions.drop (before.length + 1),
      by simp, by simp [inside.le]⟩
  rcases borrowDocs_split owner [] above declared below with ⟨before', after', equal, up, down⟩
  rw [split, List.nil_append] at equal
  rcases List.append_inj equal (length.symm.trans up.length_eq) with ⟨rfl, rest⟩
  cases rest
  exact ⟨above, declared, below, rfl, rfl, up, down⟩

theorem docs_borrowed {declaredDocs : List (String × List String)} {functions : List Function}
    {f : Function} {name : String} (borrows : f.docsFrom = some name) :
    (borrowed declaredDocs functions f).docs =
      (docsOf? functions declaredDocs name).getD f.docs := by
  rw [borrowed, borrows]

end Resolve

/-! ## What is borrowed -/

/-- The functions of a class after the borrowing; `plain` holds the documentation of the methods
that are not exposed. -/
structure Borrows (plain : List (String × List String)) (functions : List Function) : Prop where
  /-- The documentation of an exposed target is borrowed, unless the target stands below and borrows
  itself. -/
  exposed : ∀ (before after : List Function) (f target : Function),
    functions = before ++ f :: after → f.docsFrom = some target.name →
    (functions.find? fun g => g.name == target.name) = some target →
      ((∃ g ∈ before ++ [f], g.name = target.name) ∨ target.docsFrom = none →
        f.docs = target.docs) ∧
      ((∀ g ∈ before ++ [f], g.name ≠ target.name) → target.docsFrom ≠ none → f.docs = [])
  /-- The documentation of a method that is not exposed is borrowed where no function has its
  name. -/
  unexposed : ∀ f ∈ functions, ∀ name, f.docsFrom = some name →
    (functions.find? fun g => g.name == name) = none → f.docs = (plain.lookup name).getD []

/-- Of the methods that are not exposed, the first documentation of each name counts. -/
theorem Borrows.congr {left right : List (String × List String)} {functions : List Function}
    (borrows : Borrows left functions) (same : ∀ name, left.lookup name = right.lookup name) :
    Borrows right functions where
  exposed := borrows.exposed
  unexposed f member name borrowing missing := by
    rw [← same]
    exact borrows.unexposed f member name borrowing missing

theorem borrows_borrowDocs {owner : Class} {functions : List Function}
    (bare : ∀ f ∈ functions, f.docsFrom ≠ none → f.docs = []) :
    Borrows owner.declaredDocs (Resolve.borrowDocs owner [] functions).1 := by
  -- what a function borrows is looked up among the settled functions above and the declared rest
  have docs {before after : List Function} {f : Function} {name : String}
      (split : (Resolve.borrowDocs owner [] functions).1 = before ++ f :: after)
      (borrows : f.docsFrom = some name) :
      ∃ declared below, declared.name = f.name ∧ declared ∈ functions ∧ below ⊆ functions ∧
        List.Forall₂ Resolve.Passed below after ∧ f.docs =
          (Resolve.docsOf? (before ++ declared :: below) owner.declaredDocs name).getD [] := by
    rcases Resolve.exists_borrowed split with ⟨above, declared, below, rfl, isBorrowed, -, down⟩
    have passed : Resolve.Passed declared f := by
      rw [isBorrowed]
      exact Resolve.passed_borrowed _ _ declared
    have declaredBorrows : declared.docsFrom = some name := by rw [← passed.docsFrom, borrows]
    refine ⟨declared, below, passed.name.symm, by simp, by simp, down, ?_⟩
    rw [isBorrowed, Resolve.docs_borrowed declaredBorrows,
      bare declared (by simp) (by simp [declaredBorrows])]
  constructor
  case exposed =>
    intro before after f target split borrows found
    rcases docs split borrows with ⟨declared, below, sameName, inside, later, down, docs⟩
    rw [Resolve.docsOf?, List.find?_append, List.find?_cons, sameName] at docs
    rw [split, List.find?_append, List.find?_cons] at found
    cases above : before.find? fun g => g.name == target.name with
    | some g =>
        have named : g.name = target.name := by simpa using List.find?_some above
        simp only [above, Option.some_or, Option.some.injEq] at found docs
        subst found
        refine ⟨fun _ => docs, fun apart => ?_⟩
        exact absurd rfl (apart g (List.mem_append_left _ (List.mem_of_find?_eq_some above)))
    | none =>
        simp only [above, Option.none_or] at found docs
        cases self : f.name == target.name with
        | true =>
            simp only [self, Option.some.injEq] at found
            subst found
            exact ⟨fun _ => rfl, fun apart => absurd rfl (apart f (by simp))⟩
        | false =>
            simp only [self] at found docs
            have apart : ∀ g ∈ before ++ [f], g.name ≠ target.name := by
              intro g member
              rcases List.mem_append.mp member with inside | last
              · simpa using List.find?_eq_none.mp above g inside
              · rw [List.mem_singleton.mp last]
                simpa using self
            have related := Resolve.find?_passed down target.name
            rw [found] at related
            generalize isDeclared : (below.find? fun g => g.name == target.name) = first
              at related docs
            cases related with
            | @some g _ passed =>
                refine ⟨?_, fun _ borrowsItself => ?_⟩
                · rintro (⟨g, member, named⟩ | isOwn)
                  · exact absurd named (apart g member)
                  · rw [passed.own (passed.docsFrom ▸ isOwn)]
                    exact docs
                · rw [passed.docsFrom] at borrowsItself
                  rw [← bare g (later (List.mem_of_find?_eq_some isDeclared)) borrowsItself]
                  exact docs
  case unexposed =>
    intro f member name borrows missing
    have self : (f.name == name) = false := by simpa using List.find?_eq_none.mp missing f member
    rcases List.append_of_mem member with ⟨before, after, split⟩
    rcases docs split borrows with ⟨declared, below, sameName, -, -, down, docs⟩
    simp only [split, List.find?_append, List.find?_cons, self, Option.or_eq_none_iff] at missing
    rcases missing with ⟨above, rest⟩
    have related := Resolve.find?_passed down name
    rw [rest] at related
    rw [Resolve.docsOf?, List.find?_append, List.find?_cons, sameName, above, self] at docs
    generalize (below.find? fun g => g.name == name) = first at related docs
    cases related
    exact docs

/-- Borrowing does not depend on the types. -/
theorem Borrows.map_typedFunction {plain : List (String × List String)} {functions : List Function}
    (borrows : Borrows plain functions) (exposed : List String) (index : Resolve.EnumIndex) :
    Borrows plain (functions.map (Resolve.typedFunction exposed index)) := by
  have find? (name : String) :
      ((functions.map (Resolve.typedFunction exposed index)).find? fun g => g.name == name) =
        (functions.find? fun g => g.name == name).map (Resolve.typedFunction exposed index) :=
    List.find?_map
  constructor
  case exposed =>
    intro before after f target split borrowing found
    rw [List.map_eq_append_iff] at split
    rcases split with ⟨before, tail, rfl, rfl, tail_eq⟩
    rcases List.map_eq_cons_iff.mp tail_eq with ⟨f, after, rfl, rfl, rfl⟩
    rw [find?, Option.map_eq_some_iff] at found
    rcases found with ⟨target, found, rfl⟩
    rcases borrows.exposed before after f target rfl borrowing found with ⟨above, below⟩
    refine ⟨fun near => above (near.imp_left ?_), fun apart => below ?_⟩
    · rintro ⟨g, member, named⟩
      rw [← List.map_singleton, ← List.map_append] at member
      rcases List.mem_map.mp member with ⟨g, inside, rfl⟩
      exact ⟨g, inside, named⟩
    · intro g member
      refine apart (Resolve.typedFunction exposed index g) ?_
      rw [← List.map_singleton, ← List.map_append]
      exact List.mem_map_of_mem member
  case unexposed =>
    intro f member name borrowing missing
    rcases List.mem_map.mp member with ⟨f, inside, rfl⟩
    rw [find?, Option.map_eq_none_iff] at missing
    exact borrows.unexposed f inside name borrowing missing

/-! ## Interfaces -/

/-- A function that borrows has no documentation of its own. -/
theorem Header.ClassBody.Declares.docs_eq_nil {body : Header.ClassBody}
    {lives : List Header.LineContext} {c : Class} (declares : body.Declares lives c) :
    ∀ f ∈ c.functions, f.docsFrom ≠ none → f.docs = [] := by
  intro f member borrows
  rcases declares.grows with ⟨first, opens, grows⟩
  rcases grows.mem_functions member with old | ⟨context, _, _, _, _, g, parsed, rfl⟩
  · rw [(Header.LineContext.opened?_eq_some opens).1] at old
    cases old
  · rcases Header.parseFunction_docs parsed with ⟨bare, ownDocs⟩
    cases above : context.docs.1 with
    | absent => exact bare
    | reference target => exact bare
    | block lines =>
        rw [above] at borrows
        exact absurd ownDocs borrows

/--
In a class of an interface that is accepted, a function that borrows has the
documentation of its target: of the first function of that name, or, where there
is none, of the first documented method of that name that is not exposed.  Only
from a target that is declared below and borrows itself nothing is taken.
-/
theorem extract_borrows (options : Header.Options) (sources : List HeaderSource) (api : Api)
    (accepted : (extract options sources).result = .ok api) :
    ∀ c ∈ api.classes, ∃ declared ∈ (gather options {} sources).api.classes,
      declared.name = c.name ∧ ∃ source ∈ sources, ∃ body : Header.ClassBody,
        body.Declares (Header.liveLines options source.name source.text) declared ∧
        Borrows (body.members.filterMap Header.LineContext.plainDocs?) c.functions := by
  intro c member
  rw [accepted_classes accepted] at member
  rcases List.mem_map.mp member with ⟨declared, gathered, rfl⟩
  rcases scanned_of_mem_gathered (accepted_complete accepted) gathered with
    ⟨source, isSource, scanned⟩
  rcases Header.exists_body_of_scan scanned with ⟨body, declares⟩
  refine ⟨declared, gathered, (Resolve.resolveClass_resolved _ _ declared).name.symm, source,
    isSource, body, declares, ?_⟩
  rw [Resolve.resolveClass_functions]
  refine ((borrows_borrowDocs declares.docs_eq_nil).map_typedFunction _ _).congr ?_
  intro name
  rcases declares.grows with ⟨first, opens, grows⟩
  rw [grows.lookup_declaredDocs, (Header.LineContext.opened?_eq_some opens).2.1, List.nil_append]

/-- A header in which a reference leads down to a function with a reference further down. -/
def chainedHeader : HeaderSource where
  name := "a.h"
  text :=
    "NAPI_CLASS_SINGLETON class A\n// #docs_func b\nNAPI void a();\n// #docs_func c\n" ++
      "NAPI void b();\n/**\n * Docs of c.\n */\nNAPI void c();"

/-- A function of `chainedApi`. -/
def chainedFunction (name : String) (docs : List String) (docsFrom : Option String) : Function where
  name := name
  symbol := "A_" ++ name
  docs := docs
  args := []
  result := .void
  docsFrom := docsFrom

def chainedApi : Api where
  classes := [
    { name := "A"
      kind := .singleton
      functions := [
        chainedFunction "a" [] (some "b"),
        chainedFunction "b" ["Docs of c."] (some "c"),
        chainedFunction "c" ["Docs of c."] none] }]

theorem extract_chainedHeader : (extract {} [chainedHeader]).result = .ok chainedApi := by
  decide +kernel

theorem chainedApi_borrows :
    (extract {} [chainedHeader]).result = .ok chainedApi ∧
      ∀ c ∈ chainedApi.classes, ∃ declared ∈ (gather {} {} [chainedHeader]).api.classes,
        declared.name = c.name ∧ ∃ source ∈ [chainedHeader], ∃ body : Header.ClassBody,
          body.Declares (Header.liveLines {} source.name source.text) declared ∧
          Borrows (body.members.filterMap Header.LineContext.plainDocs?) c.functions :=
  ⟨extract_chainedHeader,
    extract_borrows {} [chainedHeader] chainedApi extract_chainedHeader⟩

/-- What a function borrows is not always what its target has in the end. -/
theorem docs_not_always_borrowed :
    ¬ ∀ (options : Header.Options) (sources : List HeaderSource) (api : Api),
      (extract options sources).result = .ok api →
        ∀ c ∈ api.classes, ∀ f ∈ c.functions, ∀ target : Function,
          f.docsFrom = some target.name → c.function? target.name = some target →
            f.docs = target.docs := by
  intro always
  have borrowed := always {} [chainedHeader] chainedApi extract_chainedHeader _ List.mem_cons_self
    (chainedFunction "a" [] (some "b")) List.mem_cons_self
    (chainedFunction "b" ["Docs of c."] (some "c")) rfl rfl
  exact absurd borrowed (by decide)

end HeaderBindings
