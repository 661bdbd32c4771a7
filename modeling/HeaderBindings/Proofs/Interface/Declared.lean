import HeaderBindings.Extraction
import HeaderBindings.Proofs.Header.Kept
import HeaderBindings.Proofs.Typing.GroupConvention

/-!
# What the headers declare

Scanning leaves an interface in which nothing is resolved yet.  Every function
carries the symbol of its class, the receiver that the kind of its class asks
for, and groups that agree with its name; its types are plain, and they cross
the boundary as they are written, references aside.  Opening a class gives
this and every extension keeps it, and so do a scan, a header and a sequence
of headers.
-/

namespace HeaderBindings

/-- The receiver among the arguments of the functions of a class. -/
def ClassKind.receivers (kind : ClassKind) : List Argument :=
  if kind.isSingleton then [] else [Argument.receiver]

/-- There is at most one receiver, and its name starts no group. -/
theorem ClassKind.exists_receiver (kind : ClassKind) :
    ∃ receiver : Option Argument, kind.receivers = receiver.toList ∧
      ∀ first ∈ receiver, first.isInstance = true ∧ Typing.FreeName first.name := by
  rw [ClassKind.receivers]
  split
  · exact ⟨none, rfl, by simp⟩
  · refine ⟨some Argument.receiver, rfl, ?_⟩
    rintro _ ⟨⟩
    exact ⟨rfl, Typing.freeName_receiver⟩

/-- The receiver belongs to no group, so the groups are those of the value arguments. -/
theorem ClassKind.arrayGroups_eq_ok_iff
    {kind : ClassKind} {function : String} {values : List Argument} {groups : List ArrayGroup}
    (isValue : ∀ arg ∈ values, arg.isInstance = false) :
    Typing.arrayGroups function (kind.receivers ++ values) = .ok groups ↔
      Typing.Grouped values groups ∧ (groups ≠ [] ↔ Text.endsWith function "_c" = true) := by
  rcases kind.exists_receiver with ⟨receiver, isReceiver, leading⟩
  rw [Typing.arrayGroups_eq_ok_iff, isReceiver, Typing.groupsAfter_eq_ok_iff leading isValue]

/-- A value argument as its declaration gives it. -/
structure Argument.Declared (arg : Argument) : Prop where
  value : arg.isInstance = false
  plain : arg.typeClass = .plain
  abi : arg.abiType = Typing.withoutReference arg.type

/-- A function as a declaration in a class of a name and a kind gives it. -/
structure Function.Declared (owner : String) (kind : ClassKind) (f : Function) : Prop where
  isPublic : f.isPrivate = false
  symbol : f.symbol = owner ++ "_" ++ f.name
  args : ∃ values, f.args = kind.receivers ++ values ∧ ∀ arg ∈ values, arg.Declared
  groups : Typing.arrayGroups f.name f.args = .ok f.arrayGroups
  resultPlain : f.result.typeClass = .plain
  resultAbi : f.result.abiType = Typing.withoutReference f.result.type
  returnsSelf : f.returnsSelf = true → kind.isSingleton = false ∧ f.result.type = "void"

/-- A class as the headers give it. -/
structure Class.Declared (c : Class) : Prop where
  functions : ∀ f ∈ c.functions, f.Declared c.name c.kind
  enums : ∀ e ∈ c.enums, e.underlying ∈ Header.underlyingTypes

/-- An interface as the headers give it. -/
structure Api.Declared (api : Api) : Prop where
  names : (api.classes.map Class.name).Nodup
  classes : ∀ c ∈ api.classes, c.Declared

namespace Header

/-! ## Declarations -/

theorem parseArgument_declared
    (replacements : List (String × String)) (position : Nat) (text : String) :
    (parseArgument replacements position text).Declared := by
  unfold parseArgument
  dsimp only
  split
  · exact ⟨rfl, rfl, rfl⟩
  · split <;> exact ⟨rfl, rfl, rfl⟩

theorem parseArguments_declared
    {replacements : List (String × String)} {function : String} {position : Nat}
    {pieces : List String} {values : List Argument}
    (read : parseArguments replacements function position pieces = .ok values) :
    ∀ arg ∈ values, arg.Declared := by
  induction pieces generalizing position values with
  | nil =>
      cases read
      simp
  | cons text rest ih =>
      rw [parseArguments] at read
      split at read
      · cases read
      · rcases Outcome.map_eq_ok_iff.mp read with ⟨later, others, equal⟩
        cases equal
        intro arg member
        rcases List.mem_cons.mp member with rfl | inLater
        · exact parseArgument_declared replacements position text
        · exact ih others arg inLater

theorem readSelfReturn_ok
    {owner : Class} {function type : String}
    (read : readSelfReturn owner function type = .ok true) :
    owner.isSingleton = false := by
  rw [readSelfReturn] at read
  split at read
  · split at read
    · cases read
    · rename_i notSingleton
      simpa using notSingleton
  · simp only [Except.ok.injEq, Bool.and_eq_true, beq_iff_eq] at read
    simp [Class.isSingleton, ClassKind.isSingleton, read.1]

/-- The parts from which a declaration that can be read makes up its function. -/
theorem parseFunction_ok
    {owner : Class} {replacements : List (String × String)} {declaration : String}
    {f : Function}
    (read : parseFunction owner replacements declaration = .ok f) :
    ∃ name declared returnsSelf pieces values groups,
      readSelfReturn owner name declared = .ok returnsSelf ∧
      parseArguments replacements name owner.kind.receivers.length pieces = .ok values ∧
      Typing.arrayGroups name (owner.kind.receivers ++ values) = .ok groups ∧
      f = {
        name
        symbol := owner.name ++ "_" ++ name
        args := owner.kind.receivers ++ values
        result := {
          type := if returnsSelf then "void" else declared
          abiType := Typing.withoutReference (if returnsSelf then "void" else declared) }
        returnsSelf
        arrayGroups := groups } := by
  unfold parseFunction at read
  cases found : functionName? declaration with
  | none => simp [found] at read
  | some word =>
      cases closing : toClosingParen? 0 (word.after.dropWhile Text.isBlank).tail with
      | none => simp [found, closing] at read
      | some sides =>
          simp only [found, closing, bind, Except.bind, pure, Except.pure] at read
          split at read
          · cases read
          split at read
          · cases read
          rename_i returnsSelf selfReturn
          split at read
          · cases read
          split at read
          · cases read
          rename_i pieces _
          split at read
          · cases read
          rename_i values arguments
          split at read
          · cases read
          rename_i groups grouped
          cases read
          exact ⟨_, _, returnsSelf, pieces, values, groups, selfReturn, arguments,
            Outcome.mapError_eq_ok_iff.mp grouped, rfl⟩

theorem parseFunction_declared
    {owner : Class} {replacements : List (String × String)} {declaration : String}
    {f : Function}
    (read : parseFunction owner replacements declaration = .ok f) :
    f.Declared owner.name owner.kind := by
  obtain ⟨name, declared, returnsSelf, pieces, values, groups, selfReturn, arguments,
    grouped, rfl⟩ := parseFunction_ok read
  constructor
  · rfl
  · rfl
  · exact ⟨values, rfl, parseArguments_declared arguments⟩
  · exact grouped
  · rfl
  · rfl
  · intro returns
    change returnsSelf = true at returns
    subst returns
    exact ⟨readSelfReturn_ok selfReturn, rfl⟩

theorem parseEnum_declared
    {declaration : String} {e : EnumType}
    (read : parseEnum declaration = .ok e) :
    e.underlying ∈ underlyingTypes := by
  unfold parseEnum at read
  dsimp only at read
  generalize dropBlockComments declaration = text at read
  cases keyword : Text.dropHead? (Text.trim text) "enum " with
  | none => simp [keyword] at read
  | some rest =>
      simp only [keyword] at read
      generalize Text.dropHead (Text.trimStart rest) "class " = body at read
      cases opening : Text.cut? ['\x7b'] body.toList with
      | none => simp [opening] at read
      | some outer =>
          cases closing : Text.cutLast? ['\x7d'] body.toList with
          | none => simp [opening, closing] at read
          | some inner =>
              simp only [opening, closing] at read
              cases colon : Text.cut? [':'] outer.1 with
              | none =>
                  simp only [colon] at read
                  split at read <;> cases read
              | some head =>
                  simp only [colon] at read
                  split at read
                  · cases read
                  · split at read
                    · rename_i supported
                      rw [← Except.ok.inj read]
                      exact List.contains_iff_mem.mp supported
                    · cases read

/-! ## One line -/

theorem documented_declared
    {owner : String} {kind : ClassKind} {f : Function}
    (declared : f.Declared owner kind) (docs : Docs) :
    (LineContext.documented f docs).Declared owner kind := by
  cases docs with
  | absent => exact declared
  | block lines => exact { declared with }
  | reference target => exact { declared with }

/-- A class with one more declared function. -/
theorem declared_addFunction
    {owner : Class} {f : Function}
    (declared : owner.Declared) (added : f.Declared owner.name owner.kind) :
    { owner with functions := owner.functions ++ [f] : Class }.Declared := by
  constructor
  · intro g member
    rcases List.mem_append.mp member with old | new
    · exact declared.functions g old
    · rw [List.mem_singleton.mp new]
      exact added
  · exact declared.enums

/-- A class with one more enum. -/
theorem declared_addEnum
    {owner : Class} {e : EnumType}
    (declared : owner.Declared) (supported : e.underlying ∈ underlyingTypes) :
    { owner with enums := owner.enums ++ [e] : Class }.Declared := by
  constructor
  · exact declared.functions
  · intro other member
    rcases List.mem_append.mp member with old | new
    · exact declared.enums other old
    · rw [List.mem_singleton.mp new]
      exact supported

theorem openClass_declared
    (context : LineContext) (name : String) (kind : ClassKind) :
    (context.openClass name kind).Declared := by
  rw [LineContext.openClass]
  split <;> exact ⟨by simp, by simp⟩

/-! ## A whole header -/

theorem kept_declared : Kept Class.Declared where
  opened context kind _ name _ := openClass_declared context name kind
  noted context owner name declared := by
    rcases context.notePlain_eq owner name with ⟨docs, equal⟩
    rw [equal]
    exact ⟨declared.functions, declared.enums⟩
  enumAdded declared added := by
    rcases LineContext.addEnum_ok added with ⟨declaration, e, parsed, rfl⟩
    exact declared_addEnum declared (parseEnum_declared parsed)
  functionAdded declared added := by
    rcases LineContext.addFunction_ok added with ⟨declaration, f, parsed, rfl⟩
    exact declared_addFunction declared (documented_declared (parseFunction_declared parsed) _)

theorem scan_declared (options : Options) (header source : String) :
    ∀ c, Finding.complete c ∈ (scan options header source).findings → c.Declared :=
  kept_declared.scan options header source

/-! ## The interface -/

/-- Putting a class into a list adds its name at the end, unless the list has it. -/
theorem map_name_upsertInto (c : Class) (classes : List Class) :
    (Api.upsertInto c classes).map Class.name =
      if c.name ∈ classes.map Class.name then classes.map Class.name
      else classes.map Class.name ++ [c.name] := by
  induction classes with
  | nil => rfl
  | cons first rest ih =>
      rw [Api.upsertInto]
      by_cases same : first.name = c.name
      · simp [same]
      · have different : ¬ c.name = first.name := fun equal => same equal.symm
        simp only [beq_eq_false_iff_ne.mpr same, Bool.false_eq_true, if_false, List.map_cons, ih,
          List.mem_cons, different, false_or]
        split <;> rfl

theorem nodup_upsertInto
    {classes : List Class} (names : (classes.map Class.name).Nodup) (c : Class) :
    ((Api.upsertInto c classes).map Class.name).Nodup := by
  rw [map_name_upsertInto]
  split
  · exact names
  · rename_i new
    refine List.nodup_append.mpr ⟨names, by simp, ?_⟩
    intro name member other isNew
    rw [List.mem_singleton.mp isNew]
    exact fun equal => new (equal ▸ member)

/-- A class takes the place of the one of its name and leaves the others. -/
theorem mem_upsertInto
    {classes : List Class} (names : (classes.map Class.name).Nodup) {c other : Class} :
    other ∈ Api.upsertInto c classes ↔
      other = c ∨ (other ∈ classes ∧ c.name ≠ other.name) := by
  induction classes with
  | nil => simp [Api.upsertInto]
  | cons first rest ih =>
      rcases List.nodup_cons.mp names with ⟨firstNew, restNames⟩
      rw [Api.upsertInto]
      split
      · rename_i same
        have sameName : first.name = c.name := by simpa using same
        rw [List.mem_cons]
        apply or_congr_right
        constructor
        · intro inRest
          refine ⟨List.mem_cons_of_mem _ inRest, fun equal => firstNew ?_⟩
          rw [sameName, equal]
          exact List.mem_map_of_mem inRest
        · rintro ⟨member, different⟩
          rcases List.mem_cons.mp member with rfl | inRest
          · exact absurd sameName.symm different
          · exact inRest
      · rename_i differs
        have different : c.name ≠ first.name := fun equal => differs (by simp [equal])
        rw [List.mem_cons, ih restNames, List.mem_cons]
        constructor
        · rintro (rfl | new | ⟨inRest, other⟩)
          · exact Or.inr ⟨Or.inl rfl, different⟩
          · exact Or.inl new
          · exact Or.inr ⟨Or.inr inRest, other⟩
        · rintro (new | ⟨rfl | inRest, other⟩)
          · exact Or.inr (Or.inl new)
          · exact Or.inl rfl
          · exact Or.inr (Or.inr ⟨inRest, other⟩)

theorem declared_upsert
    {api : Api} {c : Class}
    (declared : api.Declared) (added : c.Declared) :
    (api.upsert c).Declared := by
  constructor
  · exact nodup_upsertInto declared.names c
  · intro other member
    rcases (mem_upsertInto declared.names).mp member with rfl | ⟨old, _⟩
    · exact added
    · exact declared.classes other old

theorem collect_declared
    {api : Api} {findings : List Finding}
    (declared : api.Declared)
    (completed : ∀ c, Finding.complete c ∈ findings → c.Declared) :
    (collect api findings).1.Declared := by
  induction findings generalizing api with
  | nil => exact declared
  | cons finding rest ih =>
      have later : ∀ c, Finding.complete c ∈ rest → c.Declared :=
        fun c member => completed c (List.mem_cons_of_mem _ member)
      cases finding with
      | notice notice => exact ih declared later
      | complete c =>
          exact ih (declared_upsert declared (completed c List.mem_cons_self)) later

end Header

theorem gather_declared
    (options : Header.Options) {api : Api} (declared : api.Declared)
    (sources : List HeaderSource) :
    (gather options api sources).api.Declared := by
  induction sources generalizing api with
  | nil => exact declared
  | cons source rest ih =>
      have first : (gatherHeader options api source).api.Declared :=
        Header.collect_declared declared (Header.scan_declared options source.name source.text)
      rw [gather]
      dsimp only
      split
      · exact first
      · exact ih first

/-- Whatever headers are gathered, the interface is as their declarations give it. -/
theorem gathered_declared (options : Header.Options) (sources : List HeaderSource) :
    (gather options {} sources).api.Declared :=
  gather_declared options ⟨by simp, by simp⟩ sources

/-! ## Raw arguments -/

/-- The value arguments of a declared function are cut into the pieces of its groups. -/
theorem Function.Declared.grouped
    {owner : String} {kind : ClassKind} {f : Function}
    (declared : f.Declared owner kind) :
    ∃ values,
      f.args = kind.receivers ++ values ∧
      (∀ arg ∈ values, arg.Declared) ∧
      Typing.Grouped values f.arrayGroups := by
  rcases declared.args with ⟨values, args, declaredValues⟩
  refine ⟨values, args, declaredValues, ?_⟩
  have isValue : ∀ arg ∈ values, arg.isInstance = false :=
    fun arg member => (declaredValues arg member).value
  have read := (Typing.arrayGroups_ok declared.groups).1
  rw [args] at read
  rcases kind.exists_receiver with ⟨receiver, receivers, leading⟩
  rw [receivers] at read
  exact (Typing.groupsAfter_eq_ok_iff leading isValue).mp read

end HeaderBindings
