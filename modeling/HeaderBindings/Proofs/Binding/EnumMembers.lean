import HeaderBindings.Proofs.Binding.EnumTable
import HeaderBindings.Proofs.Text.Pascal

/-!
# The members of managed enums

The members of a managed enum are the constants without the words that all of
them start with, in pascal case.  The common words are kept where a name would
be empty without them or start with a digit, but pascal case also drops the
underscores after them.  So members are names exactly if the first character of
each short name that is no underscore is no digit, and they are distinct exactly
if the same letters and digits are never left of two short names.
-/

namespace HeaderBindings

namespace Managed

/-! ## Plain names -/

/-- A name whose first character is no digit. -/
def Usable (name : String) : Prop :=
  name.toList.head?.any (fun c => !c.isDigit) = true

instance (name : String) : Decidable (Usable name) :=
  inferInstanceAs (Decidable (_ = true))

/-- A usable name of ASCII letters, digits and underscores. -/
structure PlainName (name : String) : Prop where
  chars : ∀ c ∈ name.toList, Text.isNameChar c = true
  start : Usable name

instance (name : String) : Decidable (PlainName name) :=
  decidable_of_iff (name.toList.all Text.isNameChar = true ∧ Usable name)
    ⟨fun both => ⟨List.all_eq_true.mp both.1, both.2⟩,
      fun plain => ⟨List.all_eq_true.mpr plain.chars, plain.start⟩⟩

/-- A name without the underscores in front of it. -/
def unmarked (name : String) : String :=
  .ofList (name.toList.dropWhile (· == '_'))

/-- What is left of a name in pascal case. -/
def marks (name : String) : List (Char × Bool) :=
  Text.letterMarks none name.toList

/-- The member of a constant, by the short name of the constant. -/
def memberName (short : String) : String :=
  .ofList (Text.pascalChars none short.toList)

section Short

variable {head short : String}

theorem shortName_append (isName : ∀ c ∈ short.toList, Text.isNameChar c = true) :
    shortName head (head ++ short) = memberName short := by
  have cut : Text.dropHead (head ++ short) head = short := by
    rw [Text.dropHead, Text.dropHead?_eq_some_iff.mpr rfl]
    rfl
  rw [shortName, cut, Text.pascal_lowercase isName, memberName]

theorem usable_memberName (isName : ∀ c ∈ short.toList, Text.isNameChar c = true) :
    Usable (memberName short) ↔ Usable (unmarked short) := by
  rw [Usable, Usable, memberName, unmarked, String.toList_ofList, String.toList_ofList,
    Text.head?_pascalChars]
  cases start : (short.toList.dropWhile (· == '_')).head? with
  | none => rfl
  | some c =>
      have inShort : c ∈ short.toList :=
        (List.dropWhile_sublist _).subset (List.mem_of_head? start)
      rw [Option.map_some, Option.any_some, Option.any_some,
        Text.isDigit_toUpper (isName c inShort)]

theorem memberName_eq_iff {other : String} :
    memberName short = memberName other ↔ marks short = marks other := by
  rw [memberName, memberName, String.ofList_inj]
  exact Text.pascalChars_eq_iff

/-- Names that differ in an underscore alone are merged. -/
example : memberName "VERSION_1_0" = memberName "VERSION_10" := by
  decide

end Short

/-! ## The members of an enum -/

/-- The members of an enum, by the short names of its constants. -/
structure MembersNamed (head : String) (shorts : List String) (e : EnumType)
    (definition : EnumDefinition) : Prop where
  common : commonHead? (e.constants.map EnumConstant.name) = some head
  constants : e.constants.map EnumConstant.name = shorts.map (head ++ ·)
  /-- A name can start with the first character of every short name. -/
  starts : ∀ short ∈ shorts, Usable short
  members : definition.members.map EnumMember.name = shorts.map memberName
  usable : (∀ member ∈ definition.members, Usable member.name) ↔
    ∀ short ∈ shorts, Usable (unmarked short)
  distinct : (definition.members.map EnumMember.name).Nodup ↔ (shorts.map marks).Nodup

section Members

variable {head : String} {e : EnumType} {definition : EnumDefinition}

/-- The constants without their common start. -/
theorem exists_shorts {names : List String} (common : commonHead? names = some head)
    (plain : ∀ name ∈ names, PlainName name) :
    ∃ shorts : List String, names = shorts.map (head ++ ·) ∧
      ∀ short ∈ shorts, (∀ c ∈ short.toList, Text.isNameChar c = true) ∧ Usable short := by
  have whole : ∀ name ∈ names, head ++ Text.dropHead name head = name := by
    intro name member
    rcases commonHead?_prefix common member with ⟨rest, isName⟩
    have split : name = head ++ String.ofList rest := by
      rw [← String.toList_inj, String.toList_append, String.toList_ofList, isName]
    rw [Text.dropHead, Text.dropHead?_eq_some_iff.mpr split]
    exact split.symm
  refine ⟨names.map fun name => Text.dropHead name head, ?_, ?_⟩
  · rw [List.map_map]
    exact ((List.map_congr_left whole).trans (List.map_id names)).symm
  · intro short member
    rcases List.mem_map.mp member with ⟨name, inNames, rfl⟩
    have characters : name.toList = head.toList ++ (Text.dropHead name head).toList := by
      rw [← String.toList_append, whole name inNames]
    refine ⟨fun c inShort => (plain name inNames).chars c ?_, ?_⟩
    · rw [characters]
      exact List.mem_append_right _ inShort
    · rcases commonHead?_canStart common with rfl | canStart
      · have same := whole name inNames
        rw [String.empty_append] at same
        rw [same]
        exact (plain name inNames).start
      · have start := canStart name inNames
        rwa [canStartAt, characters, List.drop_left] at start

theorem membersNamed {shorts : List String}
    (common : commonHead? (e.constants.map EnumConstant.name) = some head)
    (constants : e.constants.map EnumConstant.name = shorts.map (head ++ ·))
    (plain : ∀ short ∈ shorts, (∀ c ∈ short.toList, Text.isNameChar c = true) ∧ Usable short)
    (named : definition.members.map EnumMember.name =
      (e.constants.map EnumConstant.name).map (shortName head)) :
    MembersNamed head shorts e definition := by
  have members : definition.members.map EnumMember.name = shorts.map memberName := by
    rw [named, constants, List.map_map]
    exact List.map_congr_left fun short member => shortName_append (plain short member).1
  constructor
  case common => exact common
  case constants => exact constants
  case starts => exact fun short member => (plain short member).2
  case members => exact members
  case usable =>
    have names : (∀ member ∈ definition.members, Usable member.name) ↔
        ∀ name ∈ definition.members.map EnumMember.name, Usable name :=
      List.forall_mem_map.symm
    rw [names, members, List.forall_mem_map]
    exact forall₂_congr fun short member => usable_memberName (plain short member).1
  case distinct =>
    rw [members, List.Nodup, List.Nodup, List.pairwise_map, List.pairwise_map]
    exact List.Pairwise.iff fun _ _ => not_congr memberName_eq_iff

end Members

/-! ## The enums of an interface -/

section Classes

variable {api : Api} {apiName : String} {classes : List ClassDefinition}

/-- Classes that are written share a table. -/
theorem written_classes (written : classesOf api.withLifecycle apiName = .ok classes) :
    ∃ table, EnumTable.ofApi api = .ok table ∧
      List.Forall₂ (fun c definition =>
        ClassDefinition.ofClass table apiName c.withLifecycle = .ok definition)
        api.classes classes := by
  rw [classesOf, ofApi_withLifecycle] at written
  rcases Outcome.bind_eq_ok_iff.mp written with ⟨table, made, afterTable⟩
  refine ⟨table, Outcome.mapError_eq_ok_iff.mp made, ?_⟩
  exact List.forall₂_map_left_iff.mp (Outcome.mapM_eq_ok_iff.mp afterTable)

theorem ofClass_enums {table : EnumTable} {c : Class} {definition : ClassDefinition}
    (written : ClassDefinition.ofClass table apiName c = .ok definition) :
    List.Forall₂ (fun e d => EnumDefinition.ofEnum table c.name e = .ok d)
      c.enums definition.enums := by
  rw [ClassDefinition.ofClass] at written
  rcases Outcome.bind_eq_ok_iff.mp written with ⟨docs, _, afterDocs⟩
  rcases Outcome.bind_eq_ok_iff.mp afterDocs with ⟨definitions, enumsOk, afterEnums⟩
  rcases Outcome.bind_eq_ok_iff.mp afterEnums with ⟨methods, _, equal⟩
  cases equal
  exact Outcome.mapM_eq_ok_iff.mp (Outcome.mapError_eq_ok_iff.mp enumsOk)

/-- In a class that is written, the members of an enum are named after its own constants. -/
theorem written_members {table : EnumTable} (made : EnumTable.ofApi api = .ok table)
    (names : (api.classes.map Class.name).Nodup) (wordNamed : ∀ c ∈ api.classes, c.WordNamed)
    {c : Class} (inApi : c ∈ api.classes) (keeps : KeepsConstants c)
    {e : EnumType} (inClass : e ∈ c.enums) {d : EnumDefinition}
    (written : EnumDefinition.ofEnum table c.name e = .ok d) :
    ∃ head, commonHead? (e.constants.map EnumConstant.name) = some head ∧
      d.members.map EnumMember.name =
        (e.constants.map EnumConstant.name).map (shortName head) := by
  obtain ⟨last, isLast, sameName⟩ :
      ∃ last, Table.LastOf EnumType.name c.enums last ∧ last.name = e.name :=
    Table.exists_lastOf inClass
  rcases definition_eq made names wordNamed inApi isLast sameName with ⟨found, named, equal⟩
  rw [equal] at written
  rcases Outcome.map_eq_ok_iff.mp written with ⟨members, membersOk, rfl⟩
  have related := Outcome.mapM_eq_ok_iff.mp membersOk
  rcases keeps.eq_lastOf inClass isLast sameName with rfl | empty
  · rcases ofEnum_ok named with ⟨head, common, constants⟩
    refine ⟨head, common, ?_⟩
    rw [List.map_map]
    refine Related.map_eq (fun constant member made => ?_) related
    rw [EnumMember.ofConstant, constants] at made
    split at made
    · rename_i name isFound
      cases made
      split at isFound
      · exact (Option.some.inj isFound).symm
      · cases isFound
    · cases made
  · rw [empty] at related ⊢
    cases related
    exact ⟨"", rfl, rfl⟩

end Classes

end Managed

/-- The members of the enums of an interface whose managed wrapper is written. -/
def Api.EnumMembers (api : Api) : Prop :=
  ∀ apiName classes, Managed.classesOf api.withLifecycle apiName = .ok classes →
    List.Forall₂ (fun c definition =>
      List.Forall₂ (fun e d => (∀ constant ∈ e.constants, Managed.PlainName constant.name) →
        ∃ head shorts, Managed.MembersNamed head shorts e d)
        c.enums definition.enums)
      api.classes classes

/-- Whatever the options and the headers are, the members of the enums of an accepted interface are
named by what follows the common words of their constants. -/
theorem extract_enumMembers
    (options : Header.Options) (sources : List HeaderSource) (api : Api)
    (accepted : (extract options sources).result = .ok api) : api.EnumMembers := by
  intro apiName classes written
  have names := accepted_names accepted
  have wordNamed := accepted_wordNamed accepted
  have constants := (List.nodup_flatMap.mp (accepted_constants accepted)).1
  rcases Managed.written_classes written with ⟨table, made, related⟩
  refine ((List.forall₂_and_left _ _).mpr ⟨fun c inApi => inApi, related⟩).imp ?_
  rintro c definition ⟨inApi, classWritten⟩
  have each := (Managed.exists_ofClass_iff.mp ⟨definition, classWritten⟩).2
  have keeps : Managed.KeepsConstants c :=
    (Managed.exists_definitions_iff made names wordNamed inApi (constants c inApi)).mp each
  refine ((List.forall₂_and_left _ _).mpr
    ⟨fun e inClass => inClass, Managed.ofClass_enums classWritten⟩).imp ?_
  rintro e d ⟨inClass, enumWritten⟩ plain
  rcases Managed.written_members made names wordNamed inApi keeps inClass enumWritten with
    ⟨head, common, named⟩
  rcases Managed.exists_shorts common (List.forall_mem_map.mpr plain) with
    ⟨shorts, isWhole, areNames⟩
  exact ⟨head, shorts, Managed.membersNamed common isWhole areNames named⟩

/-- The word that all constants start with is followed by a second underscore and a digit. -/
def underscoredHeader : HeaderSource :=
  { name := "a.h"
    text := "NAPI_CLASS_SINGLETON class A\nNAPI_ENUM enum M : int\x7bX__1, X_A\x7d;" }

def underscoredApi : Api :=
  { classes := [
      { name := "A"
        kind := .singleton
        enums := [
          { name := "M", underlying := "int", constants := [⟨"X__1", "0"⟩, ⟨"X_A", "1"⟩] }] }] }

/-- The managed class of `underscoredApi`. -/
def underscoredClass : Managed.ClassDefinition where
  docs := []
  name := "A"
  isStatic := true
  enums := [{ name := "M", underlying := "int", members := [⟨"1", "0"⟩, ⟨"A", "1"⟩] }]
  properties := []
  methods := []

theorem extract_underscoredHeader :
    (extract {} [underscoredHeader]).result = .ok underscoredApi := by
  decide +kernel

theorem classesOf_underscoredApi :
    Managed.classesOf underscoredApi.withLifecycle "lib" = .ok [underscoredClass] := by
  decide +kernel

theorem underscoredApi_enumMembers :
    (extract {} [underscoredHeader]).result = .ok underscoredApi ∧
      underscoredApi.EnumMembers ∧
      Managed.classesOf underscoredApi.withLifecycle "lib" = .ok [underscoredClass] :=
  ⟨extract_underscoredHeader,
    extract_enumMembers {} [underscoredHeader] underscoredApi extract_underscoredHeader,
    classesOf_underscoredApi⟩

/-- The members of an enum of plain constants are not always usable. -/
theorem enumMembers_not_always_usable :
    ¬ ∀ (options : Header.Options) (sources : List HeaderSource) (api : Api),
      (extract options sources).result = .ok api →
        ∀ apiName classes, Managed.classesOf api.withLifecycle apiName = .ok classes →
          List.Forall₂ (fun c definition =>
            List.Forall₂ (fun e d => (∀ constant ∈ e.constants, Managed.PlainName constant.name) →
              (∀ member ∈ d.members, Managed.Usable member.name) ∧
                (d.members.map Managed.EnumMember.name).Nodup)
              c.enums definition.enums)
            api.classes classes := by
  intro always
  have related := always {} [underscoredHeader] underscoredApi extract_underscoredHeader "lib" _
    classesOf_underscoredApi
  rcases related with _ | ⟨enums, _⟩
  rcases enums with _ | ⟨first, _⟩
  have usable := (first (by decide)).1
  exact absurd usable (by decide)

end HeaderBindings
