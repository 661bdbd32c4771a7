import HeaderBindings.Proofs.Header.Independence

/-!
# What scanning keeps

A class is opened by a marker and then extended line by line.  A property of
classes that holds when a class is opened, and that every extension keeps, is
kept by a live line, and hence by a scan: it holds of each class that the scan
completes.
-/

namespace HeaderBindings.Header

/-! ## What a line adds -/

namespace LineContext

variable {context : LineContext} {owner extended : Class}

@[simp]
theorem openClass_name (context : LineContext) (name : String) (kind : ClassKind) :
    (context.openClass name kind).name = name := by
  rw [openClass]
  split <;> rfl

/-- A line without a marker adds documentation at most. -/
theorem notePlain_eq (context : LineContext) (owner : Class) (name : String) :
    ∃ declaredDocs, context.notePlain owner name = { owner with declaredDocs } := by
  rw [notePlain]
  split
  · rw [Class.declareDocs]
    split
    · exact ⟨_, rfl⟩
    · exact ⟨_, rfl⟩
  · exact ⟨_, rfl⟩

theorem addEnum_ok (added : context.addEnum owner = .ok extended) :
    ∃ declaration e, parseEnum declaration = .ok e ∧
      extended = { owner with enums := owner.enums ++ [e] } := by
  rw [addEnum] at added
  split at added
  · cases added
  · rename_i declaration _
    split at added
    · cases added
    · rename_i e parsed
      exact ⟨declaration, e, parsed, (Except.ok.inj added).symm⟩

theorem addFunction_ok (added : context.addFunction owner = .ok extended) :
    ∃ declaration f, parseFunction owner context.options.replacements declaration = .ok f ∧
      extended =
        { owner with functions := owner.functions ++ [documented f context.docs.1] } := by
  rw [addFunction] at added
  split at added
  · cases added
  · rename_i declaration _
    split at added
    · cases added
    · rename_i f parsed
      exact ⟨declaration, f, parsed, (Except.ok.inj added).symm⟩

/-- The method that a line declares without exposing it. -/
def plainName? (context : LineContext) : Option String :=
  match (readMarker context.line).1 with
  | none => plainDeclaration? context.line
  | some _ => none

/-- The class that a line opens, as far as that line gives it. -/
def opened? (context : LineContext) : Option Class :=
  match readMarker context.line with
  | (some (.classOpen kind), rest) =>
    (declaredClass? rest).map fun name => context.openClass name kind
  | _ => none

/-- What a line that opens no class makes of the class that is open. -/
inductive Adds (context : LineContext) (owner : Class) : Class → Prop where
  | nothing (unnamed : context.plainName? = none)
      (notFunction : (readMarker context.line).1 ≠ some .function) : Adds context owner owner
  | docs {name : String} (named : context.plainName? = some name) :
      Adds context owner (context.notePlain owner name)
  | enumeration {extended : Class} (marked : (readMarker context.line).1 = some .enumeration)
      (added : context.addEnum owner = .ok extended) : Adds context owner extended
  | function {extended : Class} (marked : (readMarker context.line).1 = some .function)
      (added : context.addFunction owner = .ok extended) : Adds context owner extended

/-- A live line either opens a class, and completes the one that was open, or adds to the class
that is open, if there is one. -/
theorem read_cases {current next : Option Class} {findings : List Finding}
    (read : context.read current = .ok (findings, next)) :
    (∃ c, context.opened? = some c ∧ classesOf findings = current.toList ∧ next = some c) ∨
      (context.opened? = none ∧ classesOf findings = [] ∧
        Option.Rel context.Adds current next) := by
  unfold LineContext.read at read
  cases marked : readMarker context.line with
  | mk marker rest =>
      have isMarker : (readMarker context.line).1 = marker := by rw [marked]
      rw [marked] at read
      cases marker with
      | none =>
          have opensNone : context.opened? = none := by rw [opened?, marked]
          have plain : context.plainName? = plainDeclaration? context.line := by
            rw [plainName?, isMarker]
          refine Or.inr ⟨opensNone, ?_⟩
          cases current with
          | none =>
              cases read
              exact ⟨rfl, .none⟩
          | some owner =>
              dsimp only at read
              split at read
              · rename_i unnamed
                cases read
                exact ⟨rfl, .some (.nothing (plain.trans unnamed) (by simp [isMarker]))⟩
              · rename_i name named
                cases read
                exact ⟨classesOf_notices _, .some (.docs (plain.trans named))⟩
      | some marker =>
          have unnamed : context.plainName? = none := by rw [plainName?, isMarker]
          cases marker with
          | classOpen kind =>
              have opens : context.opened? =
                  (declaredClass? rest).map fun name => context.openClass name kind := by
                rw [opened?, marked]
              dsimp only at read
              split at read
              · rename_i missing
                cases read
                refine Or.inr ⟨by rw [opens, missing]; rfl, rfl, ?_⟩
                cases current with
                | none => exact .none
                | some owner => exact .some (.nothing unnamed (by simp [isMarker]))
              · rename_i name declared
                cases read
                refine Or.inl ⟨_, by rw [opens, declared]; rfl, ?_, rfl⟩
                rw [classesOf_append, classesOf_notices, List.append_nil]
                cases current <;> rfl
          | enumeration =>
              refine Or.inr ⟨by rw [opened?, marked], ?_⟩
              cases current with
              | none =>
                  cases read
                  exact ⟨rfl, .none⟩
              | some owner =>
                  rcases Outcome.map_eq_ok_iff.mp read with ⟨extended, added, equal⟩
                  cases equal
                  exact ⟨rfl, .some (.enumeration isMarker added)⟩
          | function =>
              refine Or.inr ⟨by rw [opened?, marked], ?_⟩
              cases current with
              | none =>
                  cases read
                  exact ⟨rfl, .none⟩
              | some owner =>
                  rcases Outcome.map_eq_ok_iff.mp read with ⟨extended, added, equal⟩
                  cases equal
                  exact ⟨classesOf_notices _, .some (.function isMarker added)⟩

end LineContext

/-! ## What is kept -/

/-- A property of classes that holds from the opening of a class on. -/
structure Kept (P : Class → Prop) : Prop where
  opened : ∀ (context : LineContext) (kind : ClassKind) {rest name : String},
    declaredClass? rest = some name → P (context.openClass name kind)
  noted : ∀ (context : LineContext) {owner : Class} (declared : String),
    P owner → P (context.notePlain owner declared)
  enumAdded : ∀ {context : LineContext} {owner extended : Class},
    P owner → context.addEnum owner = .ok extended → P extended
  functionAdded : ∀ {context : LineContext} {owner extended : Class},
    P owner → context.addFunction owner = .ok extended → P extended

variable {P : Class → Prop}

/-- A live line keeps the property, of the class that is open and of the classes it completes. -/
theorem Kept.read
    {context : LineContext} {current next : Option Class} {findings : List Finding}
    (kept : Kept P)
    (holds : ∀ owner ∈ current, P owner)
    (read : context.read current = .ok (findings, next)) :
    (∀ c, Finding.complete c ∈ findings → P c) ∧ ∀ owner ∈ next, P owner := by
  simp only [← mem_classesOf]
  rcases LineContext.read_cases read with ⟨c, opens, completes, rfl⟩ | ⟨_, completes, added⟩
  · rw [completes]
    refine ⟨fun owner member => holds owner (Option.mem_toList.mp member), ?_⟩
    rintro _ ⟨⟩
    rw [LineContext.opened?] at opens
    split at opens
    · rcases Option.map_eq_some_iff.mp opens with ⟨name, declared, rfl⟩
      exact kept.opened context _ declared
    · cases opens
  · rw [completes]
    refine ⟨by simp, ?_⟩
    cases added with
    | none => simp
    | some adds =>
        rintro _ ⟨⟩
        have ownerHolds := holds _ rfl
        cases adds with
        | nothing => exact ownerHolds
        | docs => exact kept.noted context _ ownerHolds
        | enumeration _ added => exact kept.enumAdded ownerHolds added
        | function _ added => exact kept.functionAdded ownerHolds added

theorem Kept.scanLines
    (kept : Kept P)
    (options : Options) (header : String) (above : List String)
    (conditions : Preprocessor.Conditions) {current : Option Class}
    (holds : ∀ owner ∈ current, P owner) (lines : List String) :
    ∀ c, Finding.complete c ∈ (scanLines options header above conditions current lines).findings →
      P c := by
  induction lines generalizing above conditions current with
  | nil =>
      intro c member
      rcases List.mem_map.mp member with ⟨owner, inCurrent, equal⟩
      cases equal
      exact holds c (Option.mem_toList.mp inCurrent)
  | cons line below ih =>
      intro c member
      rw [Header.scanLines] at member
      dsimp only at member
      split at member
      · split at member
        · simp at member
        · rename_i findings next read
          rcases kept.read holds read with ⟨completed, nextHolds⟩
          rcases List.mem_append.mp member with now | later
          · exact completed c now
          · exact ih _ _ nextHolds c later
      · rcases List.mem_append.mp member with complaint | later
        · simp at complaint
        · exact ih _ _ holds c later

theorem Kept.scan (kept : Kept P) (options : Options) (header source : String) :
    ∀ c, Finding.complete c ∈ (scan options header source).findings → P c :=
  kept.scanLines options header [] _ (by simp) _

end HeaderBindings.Header
