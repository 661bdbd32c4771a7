import HeaderBindings.Proofs.Header.Independence
import HeaderBindings.Proofs.Interface.Resolution
import HeaderBindings.Proofs.Text.WordRun

/-!
# The order of the headers

Headers that declare no class in common can be given in any order.  The classes
that are gathered are then the same ones, and so are the exposed names and the
index of the enums, which is all that the resolution of a class takes from the
other classes.  So an extraction fails in every order or gives the same classes
in every order.
-/

namespace HeaderBindings

open Header (Options)

/-! ## Gathering -/

namespace HeaderSource

variable (options : Options) (source : HeaderSource)

/-- The classes that a header declares. -/
def classes : List Class :=
  (Header.scan options source.name source.text).classes

/-- Whether a header cannot be scanned to its end. -/
def fails : Bool :=
  (Header.scan options source.name source.text).failure.isSome

end HeaderSource

/-- No two headers declare classes of one name. -/
def Separate (options : Options) (sources : List HeaderSource) : Prop :=
  ∀ first ∈ sources, ∀ second ∈ sources, first ≠ second →
    ∀ c ∈ first.classes options, ∀ d ∈ second.classes options, c.name ≠ d.name

instance (options : Options) (sources : List HeaderSource) :
    Decidable (Separate options sources) :=
  inferInstanceAs (Decidable (∀ first ∈ sources, ∀ second ∈ sources, first ≠ second →
    ∀ c ∈ first.classes options, ∀ d ∈ second.classes options, c.name ≠ d.name))

section Gathering

variable {options : Options} {api : Api} {sources others : List HeaderSource}

theorem gatherHeader_api (source : HeaderSource) :
    (gatherHeader options api source).api =
      (source.classes options).foldl Api.upsert api :=
  Header.collect_fst api _

/-- Gathering fails when one of the headers does. -/
theorem isSome_gather_failure :
    (gather options api sources).failure.isSome = sources.any (HeaderSource.fails options) := by
  induction sources generalizing api with
  | nil => rfl
  | cons source rest ih =>
      have first : (gatherHeader options api source).failure.isSome = source.fails options := rfl
      rw [gather, List.any_cons, ← first]
      cases failed : (gatherHeader options api source).failure.isSome with
      | true => simp [failed]
      | false =>
          simp only [Bool.false_or, Bool.false_eq_true, if_false]
          exact ih

theorem gather_api (complete : sources.any (HeaderSource.fails options) = false) :
    (gather options api sources).api =
      (sources.flatMap (HeaderSource.classes options)).foldl Api.upsert api := by
  induction sources generalizing api with
  | nil => rfl
  | cons source rest ih =>
      rw [List.any_cons, Bool.or_eq_false_iff] at complete
      have first : (gatherHeader options api source).failure.isSome = false := complete.1
      rw [gather, List.flatMap_cons, List.foldl_append, ← gatherHeader_api]
      simp only [first, Bool.false_eq_true, if_false]
      exact ih complete.2

theorem foldl_upsert_classes (api : Api) (classes : List Class) :
    (classes.foldl Api.upsert api).classes =
      classes.foldl (fun table c => Api.upsertInto c table) api.classes := by
  induction classes generalizing api with
  | nil => rfl
  | cons c rest ih => exact ih (api.upsert c)

/-- Of headers that declare no class in common, the last class of each name is gathered. -/
theorem mem_gathered
    (complete : sources.any (HeaderSource.fails options) = false)
    (separate : Separate options sources) {c : Class} :
    c ∈ (gather options {} sources).api.classes ↔
      ∃ source ∈ sources, Table.LastOf Class.name (source.classes options) c := by
  rw [gather_api complete, foldl_upsert_classes, ← Table.lastOf_flatMap separate]
  apply @Table.mem_foldl_iff _ _ Class.name _ _ (fun table c => Api.upsertInto c table)
    fun table => (table.map Class.name).Nodup
  · exact List.nodup_nil
  · exact fun table added names => Header.nodup_upsertInto names added
  · exact fun table added other names => Header.mem_upsertInto names

theorem gathered_perm
    (perm : sources.Perm others)
    (complete : sources.any (HeaderSource.fails options) = false)
    (separate : Separate options sources) :
    (gather options {} sources).api.classes.Perm (gather options {} others).api.classes := by
  have othersComplete : others.any (HeaderSource.fails options) = false := by
    rwa [← perm.any_eq]
  have othersSeparate : Separate options others := by
    intro first inOthers second alsoInOthers
    exact separate first (perm.mem_iff.mpr inOthers) second (perm.mem_iff.mpr alsoInOthers)
  refine (List.perm_ext_iff_of_nodup (gathered_declared options sources).names.of_map
    (gathered_declared options others).names.of_map).mpr fun c => ?_
  rw [mem_gathered complete separate, mem_gathered othersComplete othersSeparate]
  exact exists_congr fun source => and_congr_left fun _ => perm.mem_iff

end Gathering

/-! ## The names of the classes -/

/-- A class whose name consists of word characters. -/
def Class.WordNamed (c : Class) : Prop :=
  ∀ character ∈ c.name.toList, Text.isWord character = true

theorem kept_wordNamed : Header.Kept Class.WordNamed where
  opened context kind rest name declared := by
    rw [Class.WordNamed, Header.LineContext.openClass_name]
    rw [Header.declaredClass?] at declared
    split at declared
    · exact Text.isWord_of_firstWord? declared
    · split at declared
      · exact Text.isWord_of_firstWord? declared
      · cases declared
  noted context owner name wordNamed := by
    rcases context.notePlain_eq owner name with ⟨docs, equal⟩
    rw [equal]
    exact wordNamed
  enumAdded wordNamed added := by
    rcases Header.LineContext.addEnum_ok added with ⟨_, _, _, rfl⟩
    exact wordNamed
  functionAdded wordNamed added := by
    rcases Header.LineContext.addFunction_ok added with ⟨_, _, _, rfl⟩
    exact wordNamed

theorem gathered_wordNamed
    {options : Options} {sources : List HeaderSource}
    (complete : sources.any (HeaderSource.fails options) = false)
    (separate : Separate options sources) :
    ∀ c ∈ (gather options {} sources).api.classes, c.WordNamed := by
  intro c member
  rcases (mem_gathered complete separate).mp member with ⟨source, _, last⟩
  exact kept_wordNamed.scan options source.name source.text c
    (Header.mem_classesOf.mp last.mem)

/-- Where names hold no colon, the class is read off a qualified name. -/
theorem owner_of_qualifiedName
    {owner other name otherName : String}
    (plain : ':' ∉ owner.toList) (otherPlain : ':' ∉ other.toList)
    (same : qualifiedName owner name = qualifiedName other otherName) :
    owner = other := by
  have head {first second : String} (free : ':' ∉ first.toList) :
      (qualifiedName first second).toList.takeWhile (· != ':') = first.toList := by
    rw [qualifiedName, String.append_assoc, String.toList_append,
      List.takeWhile_append_of_pos, String.toList_append]
    · simp
    · intro c member
      simpa using fun equal : c = ':' => free (equal ▸ member)
  rw [← String.toList_inj, ← head plain, ← head otherPlain, same]

theorem Class.WordNamed.plain {c : Class} (wordNamed : c.WordNamed) : ':' ∉ c.name.toList := by
  intro member
  have isWord : Text.isWord ':' = true := wordNamed ':' member
  exact absurd isWord (by decide +kernel)

/-- Classes of different names have no qualified name in common. -/
theorem class_of_qualifiedName
    {classes : List Class} (names : (classes.map Class.name).Nodup)
    (wordNamed : ∀ c ∈ classes, c.WordNamed)
    {c d : Class} (inClasses : c ∈ classes) (alsoInClasses : d ∈ classes) {name otherName : String}
    (same : qualifiedName c.name name = qualifiedName d.name otherName) : c = d := by
  have sameName : c.name = d.name :=
    owner_of_qualifiedName (wordNamed c inClasses).plain (wordNamed d alsoInClasses).plain same
  exact List.inj_on_of_nodup_map names inClasses alsoInClasses sameName

/-! ## Resolving -/

namespace Resolve

section Exposed

variable {exposed others : List String}

theorem classify_congr (same : ∀ name, name ∈ exposed ↔ name ∈ others) :
    Typing.classify exposed = Typing.classify others := by
  have contains (name : String) : exposed.contains name = others.contains name := by
    rw [Bool.eq_iff_iff, List.contains_iff_mem, List.contains_iff_mem, same]
  funext type
  unfold Typing.classify
  simp only [contains]

/-- Of the other classes a class needs the names, in whatever order. -/
theorem resolveClass_congr (same : ∀ name, name ∈ exposed ↔ name ∈ others) (index : EnumIndex) :
    resolveClass exposed index = resolveClass others index := by
  have types := classify_congr same
  have args : classifyArgument exposed = classifyArgument others := by
    funext f arg
    rw [classifyArgument, classifyArgument, types]
  have result : classifyResult exposed = classifyResult others := by
    funext f
    rw [classifyResult, classifyResult, types]
  have functions : classifyFunction exposed = classifyFunction others := by
    funext f
    rw [classifyFunction, classifyFunction, args, result]
  funext c
  rw [resolveClass, resolveClass, classifyClass, classifyClass, functions]

end Exposed

section Classes

variable {classes others : List Class}

theorem distinctConstants_perm (perm : classes.Perm others) :
    DistinctConstants classes ↔ DistinctConstants others :=
  ((perm.flatMap_right _).flatMap_right _).nodup_iff

/-- Classes of different names have no qualified name of an enum in common. -/
theorem lastOf_enumEntries
    (names : (classes.map Class.name).Nodup) (wordNamed : ∀ c ∈ classes, c.WordNamed)
    {entry : String × TypeClass} :
    Table.LastOf Prod.fst ((ownedEnums classes).map entryOf) entry ↔
      ∃ c ∈ classes, Table.LastOf Prod.fst (c.enums.map fun e => entryOf (c.name, e)) entry := by
  have entries : (ownedEnums classes).map entryOf =
      classes.flatMap fun c => c.enums.map fun e => entryOf (c.name, e) := by
    simp only [ownedEnums, List.map_flatMap, List.map_map]
    rfl
  rw [entries]
  apply Table.lastOf_flatMap
  intro c inClasses d alsoInClasses different x inFirst y inSecond same
  rcases List.mem_map.mp inFirst with ⟨e, _, rfl⟩
  rcases List.mem_map.mp inSecond with ⟨f, _, rfl⟩
  exact different (class_of_qualifiedName names wordNamed inClasses alsoInClasses same)

theorem enumIndex_perm
    (perm : classes.Perm others)
    (names : (classes.map Class.name).Nodup) (wordNamed : ∀ c ∈ classes, c.WordNamed) :
    enumIndex classes = enumIndex others := by
  apply Table.ofEntries_congr
  intro entry
  rw [lastOf_enumEntries names wordNamed,
    lastOf_enumEntries ((perm.map Class.name).nodup_iff.mp names)
      fun c member => wordNamed c (perm.mem_iff.mpr member)]
  exact exists_congr fun c => and_congr_left fun _ => perm.mem_iff

end Classes

theorem resolve_settled_iff {api : Api} :
    (resolve api).failure = none ↔ DistinctConstants api.classes :=
  ⟨distinct_of_resolve, fun distinct => (resolve_distinct distinct).1⟩

/-- The order of the classes has no influence on what is made of each of them. -/
theorem resolve_perm
    {api other : Api} (perm : api.classes.Perm other.classes)
    (names : (api.classes.map Class.name).Nodup) (wordNamed : ∀ c ∈ api.classes, c.WordNamed)
    (settled : (resolve api).failure = none) :
    (resolve api).api.classes.Perm (resolve other).api.classes := by
  have distinct := resolve_settled_iff.mp settled
  -- All that a class takes from the others is the set of their names and the index of the enums.
  have exposed (name : String) : name ∈ exposedNames api ↔ name ∈ exposedNames other :=
    (perm.map Class.name).mem_iff
  rw [(resolve_distinct distinct).2,
    (resolve_distinct ((distinctConstants_perm perm).mp distinct)).2,
    ← enumIndex_perm perm names wordNamed, resolveClass_congr exposed (enumIndex api.classes)]
  exact perm.map _

end Resolve

/-! ## Extracting -/

theorem finish_toOption (gathered : Gathered) :
    gathered.finish.result.toOption =
      if gathered.failure.isSome || (Resolve.resolve gathered.api).failure.isSome then none
      else some (Resolve.resolve gathered.api).api := by
  rw [Gathered.finish]
  cases gathered.failure with
  | some error => rfl
  | none =>
      dsimp only
      cases (Resolve.resolve gathered.api).failure <;> rfl

/-- An extraction is determined by the outcomes of the scans. -/
theorem extract_congr {options : Header.Options} {sources others : List HeaderSource}
    (fails : sources.any (HeaderSource.fails options) = others.any (HeaderSource.fails options))
    (classes : sources.flatMap (HeaderSource.classes options) =
      others.flatMap (HeaderSource.classes options)) :
    (extract options sources).result.toOption = (extract options others).result.toOption := by
  rw [extract, extract, finish_toOption, finish_toOption, isSome_gather_failure,
    isSome_gather_failure, ← fails]
  cases complete : sources.any (HeaderSource.fails options) with
  | true => simp
  | false => rw [gather_api complete, gather_api (fails ▸ complete), classes]

/-- Two outcomes that are both failures, or both the same classes in some order. -/
inductive SameUpToOrder {ε : Type} : Except ε Api → Except ε Api → Prop where
  | failed (error other : ε) : SameUpToOrder (.error error) (.error other)
  | succeeded {api other : Api} :
      api.classes.Perm other.classes → SameUpToOrder (.ok api) (.ok other)

theorem finish_sameUpToOrder
    {gathered other : Gathered}
    (failures : gathered.failure.isSome = other.failure.isSome)
    (perm : gathered.failure = none → gathered.api.classes.Perm other.api.classes)
    (names : (gathered.api.classes.map Class.name).Nodup)
    (wordNamed : gathered.failure = none → ∀ c ∈ gathered.api.classes, c.WordNamed) :
    SameUpToOrder gathered.finish.result other.finish.result := by
  rw [Gathered.finish, Gathered.finish]
  cases failed : gathered.failure with
  | some error =>
      cases otherFailed : other.failure with
      | some otherError => exact .failed _ _
      | none => simp [failed, otherFailed] at failures
  | none =>
      cases otherFailed : other.failure with
      | some otherError => simp [failed, otherFailed] at failures
      | none =>
          have settlements : (Resolve.resolve gathered.api).failure = none ↔
              (Resolve.resolve other.api).failure = none := by
            rw [Resolve.resolve_settled_iff, Resolve.resolve_settled_iff]
            exact Resolve.distinctConstants_perm (perm failed)
          dsimp only
          cases settled : (Resolve.resolve gathered.api).failure with
          | some duplicate =>
              cases otherSettled : (Resolve.resolve other.api).failure with
              | some otherDuplicate => exact .failed _ _
              | none => simp [settled, otherSettled] at settlements
          | none =>
              rw [settlements.mp settled]
              exact .succeeded
                (Resolve.resolve_perm (perm failed) names (wordNamed failed) settled)

/-- Headers that declare no class in common can be given in any order. -/
theorem extract_perm
    {options : Options} {sources others : List HeaderSource}
    (perm : sources.Perm others) (separate : Separate options sources) :
    SameUpToOrder (extract options sources).result (extract options others).result := by
  have complete (settled : (gather options {} sources).failure = none) :
      sources.any (HeaderSource.fails options) = false := by
    rw [← isSome_gather_failure, settled, Option.isSome_none]
  apply finish_sameUpToOrder
  · rw [isSome_gather_failure, isSome_gather_failure, perm.any_eq]
  · exact fun settled => gathered_perm perm (complete settled) separate
  · exact (gathered_declared options sources).names
  · exact fun settled => gathered_wordNamed (complete settled) separate

end HeaderBindings
