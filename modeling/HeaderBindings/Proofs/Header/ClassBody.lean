import HeaderBindings.Proofs.Header.Kept

/-!
# The bodies of classes

A class that a scan completes is made by a stretch of the live lines of its
header: by the line that opens it, and by the lines below down to the next line
that opens a class.  The line that opens a class gives its name, its kind and
its documentation; every line of the body adds at most one declaration, one enum
or the documentation of one method to it.  So whatever a class holds can be
traced to a line of its body.
-/

namespace HeaderBindings.Header

open Preprocessor (Conditions Directive)

/-! ## Live lines -/

/-- The live lines below `above`, each in its surroundings. -/
def liveLinesBelow (options : Options) (header : String) (above : List String)
    (conditions : Conditions) : List String → List LineContext
  | [] => []
  | line :: below =>
    let later := liveLinesBelow options header (line :: above)
      (conditions.step (Directive.ofLine line)) below
    if conditions.admits (Directive.ofLine line) then
      { options, header, number := above.length + 1, above, line, below } :: later
    else
      later

/-- The live lines of a header. -/
def liveLines (options : Options) (header source : String) : List LineContext :=
  liveLinesBelow options header [] (Conditions.ofDefinitions options.definitions)
    (Text.trimmedLines source)

section Lines

variable {options : Options} {header : String} {above below : List String} {line : String}
variable {conditions : Conditions} {context : LineContext}

theorem liveLinesBelow_live (live : conditions.admits (Directive.ofLine line) = true) :
    liveLinesBelow options header above conditions (line :: below) =
      { options, header, number := above.length + 1, above, line, below } ::
        liveLinesBelow options header (line :: above)
          (conditions.step (Directive.ofLine line)) below := by
  rw [liveLinesBelow, live]
  rfl

theorem liveLinesBelow_inactive (inactive : conditions.admits (Directive.ofLine line) = false) :
    liveLinesBelow options header above conditions (line :: below) =
      liveLinesBelow options header (line :: above)
        (conditions.step (Directive.ofLine line)) below := by
  rw [liveLinesBelow, inactive]
  rfl

theorem split_of_mem_liveLinesBelow {lines : List String}
    (member : context ∈ liveLinesBelow options header above conditions lines) :
    context.above.reverse ++ context.line :: context.below = above.reverse ++ lines := by
  induction lines generalizing above conditions with
  | nil => cases member
  | cons line below ih =>
      have later (inLater : context ∈ liveLinesBelow options header (line :: above)
          (conditions.step (Directive.ofLine line)) below) :
          context.above.reverse ++ context.line :: context.below =
            above.reverse ++ line :: below := by
        rw [ih inLater, List.reverse_cons, List.append_assoc, List.singleton_append]
      cases live : conditions.admits (Directive.ofLine line) with
      | true =>
          rw [liveLinesBelow_live live] at member
          rcases List.mem_cons.mp member with rfl | inLater
          · rfl
          · exact later inLater
      | false =>
          rw [liveLinesBelow_inactive live] at member
          exact later member

/-- A live line stands in its header between the lines around it. -/
theorem split_of_mem_liveLines {source : String}
    (member : context ∈ liveLines options header source) :
    Text.trimmedLines source = context.above.reverse ++ context.line :: context.below :=
  (split_of_mem_liveLinesBelow member).symm

end Lines

/-! ## Bodies -/

/-- Lines that make one class of another one, each by what it adds. -/
inductive Grows : Class → List LineContext → Class → Prop where
  | nil (owner : Class) : Grows owner [] owner
  | cons {context : LineContext} {rest : List LineContext} {owner extended last : Class}
      (opensNone : context.opened? = none) (adds : context.Adds owner extended)
      (grows : Grows extended rest last) : Grows owner (context :: rest) last

/-- A line that opens a class, and the live lines below it down to the next such line. -/
structure ClassBody where
  opening : LineContext
  members : List LineContext

/-- A body of a class among the live lines of a header. -/
structure ClassBody.Declares (body : ClassBody) (lives : List LineContext) (c : Class) : Prop where
  stretch : ∃ before after, lives = before ++ body.opening :: (body.members ++ after) ∧
    ∀ next ∈ after.head?, next.opened?.isSome = true
  grows : ∃ first, body.opening.opened? = some first ∧ Grows first body.members c

theorem ClassBody.Declares.cons {body : ClassBody} {lives : List LineContext} {c : Class}
    (declares : body.Declares lives c) (context : LineContext) :
    body.Declares (context :: lives) c := by
  rcases declares with ⟨⟨before, after, rfl, next⟩, grows⟩
  exact ⟨⟨context :: before, after, rfl, next⟩, grows⟩

theorem ClassBody.Declares.subset {body : ClassBody} {lives : List LineContext} {c : Class}
    (declares : body.Declares lives c) : body.opening :: body.members ⊆ lives := by
  rcases declares.stretch with ⟨before, after, rfl, _⟩
  intro context member
  have inStretch := List.mem_append_left after member
  exact List.mem_append_right before inStretch

/-! ## What a body adds -/

namespace LineContext

variable {context : LineContext} {owner extended : Class}

/-- The documentation that a line gives to a method that is not exposed. -/
def plainDocs? (context : LineContext) : Option (String × List String) :=
  match context.docs.1 with
  | .block lines => context.plainName?.map fun name => (name, lines)
  | _ => none

theorem plainDocs?_eq_none (unnamed : context.plainName? = none) : context.plainDocs? = none := by
  rw [plainDocs?, unnamed]
  split <;> rfl

theorem plainName?_eq_none {marker : Marker} (marked : (readMarker context.line).1 = some marker) :
    context.plainName? = none := by
  rw [plainName?, marked]

theorem Adds.docs_eq (adds : context.Adds owner extended) : extended.docs = owner.docs := by
  cases adds with
  | nothing => rfl
  | docs =>
      rcases context.notePlain_eq owner _ with ⟨_, equal⟩
      rw [equal]
  | enumeration _ added =>
      rcases addEnum_ok added with ⟨_, _, _, rfl⟩
      rfl
  | function _ added =>
      rcases addFunction_ok added with ⟨_, _, _, rfl⟩
      rfl

/-- A line adds at most the function that it declares, with the documentation above the line. -/
theorem Adds.mem_functions (adds : context.Adds owner extended) {f : Function}
    (member : f ∈ extended.functions) :
    f ∈ owner.functions ∨
      ((readMarker context.line).1 = some .function ∧
        ∃ declaration g, parseFunction owner context.options.replacements declaration = .ok g ∧
          f = documented g context.docs.1) := by
  cases adds with
  | nothing => exact Or.inl member
  | docs =>
      rcases context.notePlain_eq owner _ with ⟨_, equal⟩
      rw [equal] at member
      exact Or.inl member
  | enumeration _ added =>
      rcases addEnum_ok added with ⟨_, _, _, rfl⟩
      exact Or.inl member
  | function marked added =>
      rcases addFunction_ok added with ⟨declaration, g, parsed, rfl⟩
      rcases List.mem_append.mp member with old | new
      · exact Or.inl old
      · exact Or.inr ⟨marked, declaration, g, parsed, List.mem_singleton.mp new⟩

/-- A line adds at most its documentation of a method, and only where the method has none. -/
theorem Adds.declaredDocs_eq (adds : context.Adds owner extended) :
    extended.declaredDocs =
      owner.declaredDocs ++ context.plainDocs?.toList.filter fun entry =>
        !owner.declaredDocs.any fun old => old.1 == entry.1 := by
  have unchanged (unnamed : context.plainName? = none) :
      owner.declaredDocs = owner.declaredDocs ++ context.plainDocs?.toList.filter fun entry =>
        !owner.declaredDocs.any fun old => old.1 == entry.1 := by
    simp [plainDocs?_eq_none unnamed]
  cases adds with
  | nothing unnamed => exact unchanged unnamed
  | docs named =>
      rw [notePlain, plainDocs?, named]
      cases context.docs.1 with
      | absent => simp
      | reference target => simp
      | block lines =>
          dsimp only [Option.map_some, Option.toList_some]
          rw [Class.declareDocs]
          split
          · rename_i known
            simp only [List.filter_cons, known, Bool.not_true, Bool.false_eq_true, if_false,
              List.filter_nil, List.append_nil]
          · rename_i new
            simp only [List.filter_cons, Bool.eq_false_iff.mpr new, Bool.not_false, if_true,
              List.filter_nil]
  | enumeration marked added =>
      rcases addEnum_ok added with ⟨_, _, _, rfl⟩
      exact unchanged (plainName?_eq_none marked)
  | function marked added =>
      rcases addFunction_ok added with ⟨_, _, _, rfl⟩
      exact unchanged (plainName?_eq_none marked)

end LineContext

namespace Grows

variable {owner last : Class} {members : List LineContext}

theorem docs_eq (grows : Grows owner members last) : last.docs = owner.docs := by
  induction grows with
  | nil => rfl
  | cons _ adds _ ih => rw [ih, adds.docs_eq]

/-- A function of a class that has grown was declared by one of its lines. -/
theorem mem_functions (grows : Grows owner members last) {f : Function}
    (member : f ∈ last.functions) :
    f ∈ owner.functions ∨
      ∃ context ∈ members, (readMarker context.line).1 = some .function ∧
        ∃ declarer declaration g,
          parseFunction declarer context.options.replacements declaration = .ok g ∧
          f = LineContext.documented g context.docs.1 := by
  induction grows with
  | nil => exact Or.inl member
  | cons _ adds _ ih =>
      rcases ih member with early | ⟨context, inRest, declared⟩
      · rcases adds.mem_functions early with old | ⟨marked, declared⟩
        · exact Or.inl old
        · exact Or.inr ⟨_, List.mem_cons_self, marked, _, declared⟩
      · exact Or.inr ⟨context, List.mem_cons_of_mem _ inRest, declared⟩

theorem mem_declaredDocs (grows : Grows owner members last) {entry : String × List String}
    (member : entry ∈ last.declaredDocs) :
    entry ∈ owner.declaredDocs ∨ entry ∈ members.filterMap LineContext.plainDocs? := by
  induction grows with
  | nil => exact Or.inl member
  | cons _ adds _ ih =>
      rcases ih member with early | late
      · rw [adds.declaredDocs_eq] at early
        rcases List.mem_append.mp early with old | new
        · exact Or.inl old
        · refine Or.inr (List.mem_filterMap.mpr ⟨_, List.mem_cons_self, ?_⟩)
          exact Option.mem_toList.mp (List.mem_filter.mp new).1
      · rcases List.mem_filterMap.mp late with ⟨context, inRest, gives⟩
        exact Or.inr (List.mem_filterMap.mpr ⟨context, List.mem_cons_of_mem _ inRest, gives⟩)

/-- Of several pieces of documentation of one method the first one counts. -/
theorem lookup_declaredDocs (grows : Grows owner members last) (name : String) :
    last.declaredDocs.lookup name =
      (owner.declaredDocs ++ members.filterMap LineContext.plainDocs?).lookup name := by
  induction grows with
  | nil => simp
  | @cons context rest owner extended last _ adds _ ih =>
      rw [ih, adds.declaredDocs_eq]
      cases gives : context.plainDocs? with
      | none => simp [List.filterMap_cons_none gives]
      | some entry =>
          rw [List.filterMap_cons_some gives, Option.toList_some]
          cases known : owner.declaredDocs.any fun old => old.1 == entry.1 with
          | false => simp [known]
          | true =>
              -- a name that has documentation is found before the line is reached
              have found : (owner.declaredDocs.lookup entry.1).isSome = true := by
                rcases List.any_eq_true.mp known with ⟨old, member, same⟩
                rw [List.lookup_isSome_iff]
                exact ⟨old, member, beq_iff_eq.mpr (beq_iff_eq.mp same).symm⟩
              rw [List.filter_cons_of_neg (by simp [known]), List.filter_nil, List.append_nil,
                List.lookup_append, List.lookup_append, List.lookup_cons]
              split
              · rename_i same
                rw [beq_iff_eq.mp same]
                rcases Option.isSome_iff_exists.mp found with ⟨docs, isFound⟩
                rw [isFound]
                rfl
              · rfl

end Grows

/-! ## The bodies of a header -/

namespace LineContext

variable {context : LineContext} {owner extended c : Class}

/-- What a line that opens no class makes of the class that is open, if the line can be read. -/
def extend? (context : LineContext) (owner : Class) : Option Class :=
  (context.read (some owner)).toOption.bind Prod.snd

theorem effect_opens (opens : context.opened? = some c) (current : Option Class) :
    context.effect current = some (current.toList, some c) := by
  rw [opened?] at opens
  split at opens
  · rename_i kind rest marked
    rcases Option.map_eq_some_iff.mp opens with ⟨name, declared, rfl⟩
    unfold effect read
    rw [marked]
    cases current with
    | none => simp [declared, Except.toOption]
    | some owner => simp [declared, Except.toOption, classesOf]
  · cases opens

theorem effect_outside (opensNone : context.opened? = none) :
    context.effect none = some ([], none) := by
  rw [opened?] at opensNone
  unfold effect read
  generalize readMarker context.line = reading at opensNone ⊢
  rcases reading with ⟨marker, rest⟩
  cases marker with
  | none => rfl
  | some marker =>
      cases marker with
      | classOpen kind =>
          have missing : declaredClass? rest = none := by simpa using opensNone
          simp [missing, Except.toOption, classesOf]
      | enumeration => rfl
      | function => rfl

theorem adds_of_extend? (opensNone : context.opened? = none)
    (extension : context.extend? owner = some extended) : context.Adds owner extended := by
  rcases Option.bind_eq_some_iff.mp extension with ⟨⟨findings, next⟩, succeeded, isNext⟩
  obtain rfl : next = some extended := isNext
  have outcome : context.read (some owner) = .ok (findings, some extended) := by
    cases result : context.read (some owner) with
    | error failure => simp [result, Except.toOption] at succeeded
    | ok pair => simpa [result, Except.toOption] using succeeded
  rcases read_cases outcome with ⟨c, opens, _⟩ | ⟨_, _, added⟩
  · rw [opensNone] at opens
    cases opens
  · cases added with
    | some adds => exact adds

theorem effect_inside (opensNone : context.opened? = none) (owner : Class) :
    context.effect (some owner) =
      (context.extend? owner).map fun extended => ([], some extended) := by
  rw [effect, extend?]
  cases outcome : context.read (some owner) with
  | error failure => rfl
  | ok result =>
      rcases result with ⟨findings, next⟩
      rcases read_cases outcome with ⟨c, opens, _⟩ | ⟨_, completes, added⟩
      · rw [opensNone] at opens
        cases opens
      · cases added with
        | some adds => simp [Except.toOption, completes]

end LineContext

/-- The lines that add to a class, from the first one on. -/
def ownLines (lives : List LineContext) : List LineContext :=
  lives.takeWhile fun context => context.opened?.isNone

/-- The bodies of the classes that some lines open, in order. -/
def bodies : List LineContext → List ClassBody
  | [] => []
  | context :: rest =>
    if context.opened?.isSome then ⟨context, ownLines rest⟩ :: bodies rest else bodies rest

/-- What some lines make of a class, if all of them can be read. -/
def grown? (owner : Class) (members : List LineContext) : Option Class :=
  members.foldlM (fun owner context => context.extend? owner) owner

theorem grown?_cons {owner c : Class} {context : LineContext} {members : List LineContext} :
    grown? owner (context :: members) = some c ↔
      ∃ extended, context.extend? owner = some extended ∧ grown? extended members = some c := by
  rw [grown?, List.foldlM_cons, Option.bind_eq_bind, Option.bind_eq_some_iff]
  rfl

/-- The class that a body declares, if all of its lines can be read. -/
def ClassBody.class? (body : ClassBody) : Option Class :=
  body.opening.opened?.bind fun first => grown? first body.members

/-- The classes before the first one that cannot be read, and whether there is such a one. -/
def readable : List (Option Class) → List Class × Bool
  | [] => ([], false)
  | none :: _ => ([], true)
  | some c :: rest => (c :: (readable rest).1, (readable rest).2)

section Bodies

variable {lives : List LineContext} {body : ClassBody} {c : Class}

theorem mem_readable {classes : List (Option Class)} (member : c ∈ (readable classes).1) :
    some c ∈ classes := by
  induction classes with
  | nil => cases member
  | cons first rest ih =>
      cases first with
      | none => cases member
      | some first =>
          rcases List.mem_cons.mp member with rfl | later
          · exact List.mem_cons_self
          · exact List.mem_cons_of_mem _ (ih later)

/-- A body reaches down to the next line that opens a class. -/
theorem stretch_of_mem_bodies (member : body ∈ bodies lives) :
    ∃ before after, lives = before ++ body.opening :: (body.members ++ after) ∧
      ∀ next ∈ after.head?, next.opened?.isSome = true := by
  induction lives with
  | nil => cases member
  | cons context rest ih =>
      have later (inRest : body ∈ bodies rest) :
          ∃ before after, context :: rest = before ++ body.opening :: (body.members ++ after) ∧
            ∀ next ∈ after.head?, next.opened?.isSome = true := by
        rcases ih inRest with ⟨before, after, split, ends⟩
        exact ⟨context :: before, after, by rw [split, List.cons_append], ends⟩
      rw [bodies] at member
      split at member
      · rcases List.mem_cons.mp member with rfl | inRest
        · refine ⟨[], rest.dropWhile fun context => context.opened?.isNone, ?_, ?_⟩
          · rw [ownLines, List.takeWhile_append_dropWhile, List.nil_append]
          · intro next isNext
            have first := List.head?_dropWhile_not
              (fun context : LineContext => context.opened?.isNone) rest
            rw [Option.mem_def.mp isNext] at first
            simpa using first
        · exact later inRest
      · exact later member

theorem opensNone_of_mem_bodies (member : body ∈ bodies lives) :
    ∀ context ∈ body.members, context.opened? = none := by
  induction lives with
  | nil => cases member
  | cons context rest ih =>
      rw [bodies] at member
      split at member
      · rcases List.mem_cons.mp member with rfl | inRest
        · intro context inBody
          simpa using List.mem_takeWhile_imp inBody
        · exact ih inRest
      · exact ih member

theorem grows_of_grown? {owner : Class} {members : List LineContext}
    (openNone : ∀ context ∈ members, context.opened? = none)
    (grown : grown? owner members = some c) : Grows owner members c := by
  induction members generalizing owner with
  | nil =>
      cases grown
      exact .nil c
  | cons context rest ih =>
      rcases grown?_cons.mp grown with ⟨extended, extension, grown⟩
      rcases List.forall_mem_cons.mp openNone with ⟨opensNone, restOpenNone⟩
      exact .cons opensNone (context.adds_of_extend? opensNone extension) (ih restOpenNone grown)

theorem declares_of_mem_bodies (member : body ∈ bodies lives) (declared : body.class? = some c) :
    body.Declares lives c := by
  rcases Option.bind_eq_some_iff.mp declared with ⟨first, opens, grown⟩
  exact ⟨stretch_of_mem_bodies member, first, opens,
    grows_of_grown? (opensNone_of_mem_bodies member) grown⟩

end Bodies

/-! ## Scanning -/

/-- A scan reads the bodies of the lines at hand in turn, first what is left of the body of the class
that is open. -/
theorem outcome_scanLines
    (options : Options) (header : String) (above : List String) (conditions : Conditions)
    (current : Option Class) (lines : List String) :
    (scanLines options header above conditions current lines).outcome =
      let lives := liveLinesBelow options header above conditions lines
      readable ((current.map fun owner => grown? owner (ownLines lives)).toList ++
        (bodies lives).map ClassBody.class?) := by
  induction lines generalizing above conditions current with
  | nil => cases current <;> rfl
  | cons line below ih =>
      cases live : conditions.admits (Directive.ofLine line) with
      | false => rw [outcome_scanLines_inactive live, liveLinesBelow_inactive live, ih]
      | true =>
          rw [outcome_scanLines_live live, liveLinesBelow_live live]
          generalize LineContext.mk options header (above.length + 1) above line below = context
          simp only [ih]
          generalize liveLinesBelow options header (line :: above)
            (conditions.step (Directive.ofLine line)) below = lives
          cases opens : context.opened? with
          | some first =>
              have inBodies : bodies (context :: lives) =
                  ⟨context, ownLines lives⟩ :: bodies lives := by
                simp [bodies, opens]
              have declares : ClassBody.class? ⟨context, ownLines lives⟩ =
                  grown? first (ownLines lives) := by
                simp [ClassBody.class?, opens]
              have ended : ownLines (context :: lives) = [] := by
                simp [ownLines, opens]
              rw [LineContext.effect_opens opens, inBodies, ended, List.map_cons, declares]
              cases current <;> rfl
          | none =>
              have inBodies : bodies (context :: lives) = bodies lives := by
                simp [bodies, opens]
              have continued : ownLines (context :: lives) = context :: ownLines lives := by
                simp [ownLines, opens]
              rw [inBodies, continued]
              cases current with
              | none =>
                  rw [LineContext.effect_outside opens]
                  rfl
              | some owner =>
                  rw [LineContext.effect_inside opens]
                  have step : grown? owner (context :: ownLines lives) =
                      (context.extend? owner).bind fun extended =>
                        grown? extended (ownLines lives) := List.foldlM_cons
                  dsimp only [Option.map_some]
                  rw [step]
                  cases context.extend? owner <;> rfl

/-- A scan completes the classes of the bodies of a header, up to the first body with a line that
cannot be read. -/
theorem outcome_scan (options : Options) (header source : String) :
    (scan options header source).outcome =
      readable ((bodies (liveLines options header source)).map ClassBody.class?) :=
  outcome_scanLines options header [] _ none _

/-- Every class that a scan completes has a body in the header. -/
theorem exists_body_of_scan {options : Options} {header source : String} {c : Class}
    (completed : Finding.complete c ∈ (scan options header source).findings) :
    ∃ body : ClassBody, body.Declares (liveLines options header source) c := by
  have member : c ∈ (scan options header source).outcome.1 := mem_classesOf.mpr completed
  rw [outcome_scan] at member
  rcases List.mem_map.mp (mem_readable member) with ⟨body, inBodies, declared⟩
  exact ⟨body, declares_of_mem_bodies inBodies declared⟩

end HeaderBindings.Header
