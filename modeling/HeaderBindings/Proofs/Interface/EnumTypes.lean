import HeaderBindings.Binding.Managed.EnumNames
import HeaderBindings.Proofs.Interface.FreeNames
import HeaderBindings.Proofs.Interface.WellFormed
import HeaderBindings.Proofs.Text.Pascal
import HeaderBindings.Proofs.Typing.Spelling

/-!
# Enum types

A type that is left plain by its spelling is the type of an enum exactly if the
qualified name of an enum stands free in it.  Of several names the least one
counts, and of several enums of that name the last one.  In a type that is the
name of an enum no other name stands free, so such a type is always the type of
that enum.
-/

namespace HeaderBindings

/-- The names of the classes and of the enums of an interface are ASCII names. -/
structure Api.AsciiNamed (api : Api) : Prop where
  classes : ∀ c ∈ api.classes, Resolve.IsAsciiName c.name
  enums : ∀ c ∈ api.classes, ∀ e ∈ c.enums, Resolve.IsAsciiName e.name

namespace Resolve

/-- The name under which an enum is known. -/
def ownedName (owned : String × EnumType) : String :=
  qualifiedName owned.1 owned.2.name

/-- The name of an enum stands free in the bare form of a type. -/
def NamedIn (type : String) (owned : String × EnumType) : Prop :=
  StandsFree (ownedName owned).toList (Typing.bareType type).toList

/-- What the class of a plain type is once the enums are known. -/
structure EnumTag (classes : List Class) (type : String) (typeClass : TypeClass) : Prop where
  tagged_iff : (∃ owner name underlying, typeClass = .enumeration owner name underlying) ↔
    ∃ owned ∈ ownedEnums classes, NamedIn type owned
  plain : (∀ owned ∈ ownedEnums classes, ¬ NamedIn type owned) → typeClass = .plain
  /-- The name that counts is the least one in the order of its bytes. -/
  least : ∀ owner name underlying, typeClass = .enumeration owner name underlying →
    ∃ e, Table.LastOf ownedName (ownedEnums classes) (owner, e) ∧
      name = e.name ∧ underlying = e.underlying ∧ NamedIn type (owner, e) ∧
      ∀ other ∈ ownedEnums classes, NamedIn type other →
        Managed.bytesOf (ownedName (owner, e)).toList ≤ Managed.bytesOf (ownedName other).toList
  exact : ∀ c ∈ classes, ∀ e ∈ c.enums, Typing.Spells type (qualifiedName c.name e.name) →
    ∃ last, Table.LastOf EnumType.name c.enums last ∧ last.name = e.name ∧
      typeClass = .enumeration c.name e.name last.underlying

/-! ## Characters of names -/

theorem toNat_le_of_isNameChar {c : Char} (isName : isNameChar c = true) : c.val.toNat ≤ 127 := by
  rw [isNameChar, isIdentifierChar, Bool.or_comm (c == '_')] at isName
  rcases Bool.or_eq_true_iff.mp isName with isIdentifier | isColon
  · exact Nat.le_of_lt_succ (Text.ascii_of_isNameChar isIdentifier)
  · rw [beq_iff_eq.mp isColon]
    decide

theorem bytesOf_cons_of_isNameChar {c : Char} (isName : isNameChar c = true) (text : List Char) :
    Managed.bytesOf (c :: text) = UInt8.ofNat c.val.toNat :: Managed.bytesOf text := by
  rw [Managed.bytesOf, List.flatMap_cons, String.utf8EncodeChar,
    if_pos (toNat_le_of_isNameChar isName)]
  rfl

/-- Characters of names are single bytes, so names are ordered as their bytes are. -/
theorem bytesOf_lt {left right : List Char} (leftName : ∀ c ∈ left, isNameChar c = true)
    (rightName : ∀ c ∈ right, isNameChar c = true) (less : left < right) :
    Managed.bytesOf left < Managed.bytesOf right := by
  induction less with
  | nil =>
      rw [bytesOf_cons_of_isNameChar (rightName _ List.mem_cons_self)]
      exact List.Lex.nil
  | rel smaller =>
      have leftFirst := leftName _ List.mem_cons_self
      have rightFirst := rightName _ List.mem_cons_self
      rw [bytesOf_cons_of_isNameChar leftFirst, bytesOf_cons_of_isNameChar rightFirst]
      apply List.Lex.rel
      have leftByte := toNat_le_of_isNameChar leftFirst
      have rightByte := toNat_le_of_isNameChar rightFirst
      have codes := UInt32.lt_iff_toNat_lt.mp (Char.lt_def.mp smaller)
      rw [UInt8.lt_iff_toNat_lt, UInt8.toNat_ofNat', UInt8.toNat_ofNat']
      omega
  | cons _ ih =>
      rw [bytesOf_cons_of_isNameChar (leftName _ List.mem_cons_self),
        bytesOf_cons_of_isNameChar (rightName _ List.mem_cons_self)]
      exact List.Lex.cons (ih (fun c member => leftName c (List.mem_cons_of_mem _ member))
        fun c member => rightName c (List.mem_cons_of_mem _ member))

/-- The bare form of a type that is a qualified name is the name. -/
theorem bareType_of_spells_qualifiedName {type owner name : String}
    (ownerAscii : IsAsciiName owner) (ascii : IsAsciiName name)
    (spells : Typing.Spells type (qualifiedName owner name)) :
    Typing.bareType type = qualifiedName owner name := by
  refine Typing.bareType_of_spells (by simp [toList_qualifiedName]) ?_ spells
  intro c member
  have isName := isNameChar_of_mem_qualifiedName ownerAscii ascii c member
  refine ⟨Text.isBlank_of_apart (by decide +kernel) isName, ?_⟩
  rintro rfl
  exact absurd isName (by decide)

/-! ## The search in the index -/

section Search

variable {classes : List Class} {type symbol : String} {owned : String × EnumType}

theorem mem_enumIndex {entry : String × TypeClass} :
    entry ∈ enumIndex classes ↔
      ∃ owned, entry = entryOf owned ∧ Table.LastOf ownedName (ownedEnums classes) owned := by
  rw [enumIndex, Table.mem_ofEntries, Table.lastOf_map]
  rfl

/-- The name of every enum is in the index. -/
theorem exists_mem_enumIndex (member : owned ∈ ownedEnums classes) :
    ∃ entry ∈ enumIndex classes, entry.1 = ownedName owned := by
  obtain ⟨last, isLast, same⟩ : ∃ last, Table.LastOf ownedName (ownedEnums classes) last ∧
      ownedName last = ownedName owned :=
    Table.exists_lastOf member
  exact ⟨entryOf last, mem_enumIndex.mpr ⟨last, rfl, isLast⟩, same⟩

/-- The enums of some classes have ASCII names. -/
def AsciiOwned (classes : List Class) : Prop :=
  ∀ owned ∈ ownedEnums classes, IsAsciiName owned.1 ∧ IsAsciiName owned.2.name

theorem mentions_iff_namedIn (ascii : AsciiOwned classes) (member : owned ∈ ownedEnums classes) :
    Mentions type (ownedName owned) ↔ NamedIn type owned :=
  mentions_iff_standsFree (ascii owned member).1 (ascii owned member).2

/-- What the search finds is the last enum of the least name that stands free. -/
theorem enumOf?_eq_some (ascii : AsciiOwned classes) {typeClass : TypeClass}
    (found : (enumOf? (enumIndex classes) symbol type).1 = some typeClass) :
    ∃ owned, typeClass = (entryOf owned).2 ∧ Table.LastOf ownedName (ownedEnums classes) owned ∧
      NamedIn type owned ∧ ∀ other ∈ ownedEnums classes, NamedIn type other →
        ownedName other = ownedName owned ∨ ownedName owned < ownedName other := by
  rw [enumOf?_fst, Option.map_eq_some_iff] at found
  rcases found with ⟨entry, search, rfl⟩
  have mentioned : Mentions type entry.1 := by simpa using List.find?_some search
  rcases mem_enumIndex.mp (List.mem_of_find?_eq_some search) with ⟨owned, rfl, last⟩
  refine ⟨owned, rfl, last, (mentions_iff_namedIn ascii last.mem).mp mentioned, ?_⟩
  intro other member named
  rcases exists_mem_enumIndex member with ⟨entry, inIndex, same⟩
  have holds : decide (Mentions type entry.1) = true := by
    rw [same, decide_eq_true_eq]
    exact (mentions_iff_namedIn ascii member).mpr named
  rw [← same]
  exact (Table.least_of_find? (Table.ascending_ofEntries _) search entry inIndex holds).imp_left
    (congrArg Prod.fst)

theorem enumOf?_eq_none (ascii : AsciiOwned classes)
    (missing : (enumOf? (enumIndex classes) symbol type).1 = none) :
    ∀ owned ∈ ownedEnums classes, ¬ NamedIn type owned := by
  intro owned member named
  rcases exists_mem_enumIndex member with ⟨entry, inIndex, same⟩
  apply enumOf?_none.mp missing entry inIndex
  rw [same]
  exact (mentions_iff_namedIn ascii member).mpr named

/-- A type that is the name of an enum names no other one. -/
theorem namedIn_of_spells (ascii : AsciiOwned classes) (member : owned ∈ ownedEnums classes)
    (spells : Typing.Spells type (ownedName owned)) :
    NamedIn type owned ∧ ∀ other, NamedIn type other → ownedName other = ownedName owned := by
  rcases ascii owned member with ⟨ownerAscii, nameAscii⟩
  have bare := bareType_of_spells_qualifiedName ownerAscii nameAscii spells
  constructor
  · rw [NamedIn, bare]
    exact standsFree_self _
  · intro other named
    rw [NamedIn, bare] at named
    exact eq_of_standsFree_qualifiedName ownerAscii nameAscii named

/-- The search for the enums gives a plain type its class. -/
theorem enumTag_enumOf? (names : (classes.map Class.name).Nodup)
    (wordNamed : ∀ c ∈ classes, c.WordNamed) (ascii : AsciiOwned classes) (symbol type : String) :
    EnumTag classes type ((enumOf? (enumIndex classes) symbol type).1.getD .plain) := by
  cases found : (enumOf? (enumIndex classes) symbol type).1 with
  | none =>
      have free := enumOf?_eq_none ascii found
      rw [Option.getD_none]
      constructor
      case tagged_iff =>
        constructor
        · rintro ⟨_, _, _, ⟨⟩⟩
        · rintro ⟨owned, member, named⟩
          exact absurd named (free owned member)
      case plain => exact fun _ => rfl
      case least => rintro _ _ _ ⟨⟩
      case exact =>
        intro c inClasses e inEnums spells
        have member : (c.name, e) ∈ ownedEnums classes :=
          mem_ownedEnums.mpr ⟨c, inClasses, rfl, inEnums⟩
        exact absurd (namedIn_of_spells ascii member spells).1 (free (c.name, e) member)
  | some typeClass =>
      rcases enumOf?_eq_some ascii found with ⟨owned, rfl, last, named, least⟩
      rw [Option.getD_some]
      constructor
      case tagged_iff => exact ⟨fun _ => ⟨owned, last.mem, named⟩, fun _ => ⟨_, _, _, rfl⟩⟩
      case plain => exact fun free => absurd named (free owned last.mem)
      case least =>
        rintro _ _ _ ⟨⟩
        refine ⟨owned.2, last, rfl, rfl, named, fun other member otherNamed => ?_⟩
        have chars (owned : String × EnumType) (member : owned ∈ ownedEnums classes) :
            ∀ c ∈ (ownedName owned).toList, isNameChar c = true :=
          isNameChar_of_mem_qualifiedName (ascii owned member).1 (ascii owned member).2
        rcases least other member otherNamed with same | less
        · rw [← same]
          exact List.le_refl _
        · exact List.le_of_lt (bytesOf_lt (chars owned last.mem) (chars other member)
            (String.lt_iff.mp less))
      case exact =>
        intro c inClasses e inEnums spells
        have member : (c.name, e) ∈ ownedEnums classes :=
          mem_ownedEnums.mpr ⟨c, inClasses, rfl, inEnums⟩
        have isName := (namedIn_of_spells ascii member spells).2 owned named
        obtain ⟨lastOne, isLast, same⟩ : ∃ lastOne,
            Table.LastOf EnumType.name c.enums lastOne ∧ lastOne.name = e.name :=
          Table.exists_lastOf inEnums
        have alsoLast : Table.LastOf ownedName (ownedEnums classes) (c.name, lastOne) :=
          lastOf_ownedEnums names wordNamed inClasses isLast
        have isOwned : owned = (c.name, lastOne) := by
          refine last.eq_of_key_eq alsoLast (isName.trans ?_)
          rw [ownedName, ownedName, same]
        refine ⟨lastOne, isLast, same, ?_⟩
        rw [isOwned, entryOf, same]

end Search

/-! ## Typing -/

section Typing

variable {exposed : List String} {index : EnumIndex} {f : Function} {arg : Argument}

/-- The enums alone decide on an argument whose type is left plain by its spelling. -/
theorem typeClass_typedArgument (value : arg.isInstance = false)
    (free : f.groupOf? arg.name = none) (plain : (Typing.classify exposed arg.type).1 = .plain) :
    (typedArgument exposed index f arg).typeClass =
      (enumOf? index f.symbol arg.type).1.getD .plain := by
  have classified : (classifyArgument exposed f arg).1 =
      { arg with typeClass := .plain, abiType := Typing.abiType arg.type .plain .argument } := by
    simp [classifyArgument, value, free, plain]
  rw [typedArgument, classified, attachArgument]
  cases search : enumOf? index f.symbol arg.type with
  | mk found notices =>
      cases found with
      | none => simp [value]
      | some typeClass => simp [value]

/-- The enums alone decide on a result whose type is left plain by its spelling. -/
theorem typeClass_typedResult (declaredPlain : f.result.typeClass = .plain)
    (plain : (Typing.classify exposed f.result.type).1 = .plain) :
    (typedResult exposed index f).typeClass =
      (enumOf? index f.symbol f.result.type).1.getD .plain := by
  obtain ⟨abiType, classified⟩ : ∃ abiType, (classifyResult exposed f).1 =
      { f.result with typeClass := .plain, abiType } := by
    rcases classifyResult_eq exposed f with same | ⟨typeClass, rfl, changed⟩
    · exact ⟨f.result.abiType, by rw [same, ← declaredPlain]⟩
    · exact ⟨_, by rw [changed, plain]⟩
  rw [typedResult, classified, attachResult]
  cases search : enumOf? index f.symbol f.result.type with
  | mk found notices =>
      cases found with
      | none => simp
      | some typeClass => simp

end Typing

end Resolve

/-! ## Interfaces -/

/-- The enum types of a function, given the classes of its interface. -/
structure Function.EnumTyped (classes : List Class) (f : Function) : Prop where
  args : ∀ arg ∈ f.args, arg.isInstance = false → f.groupOf? arg.name = none →
    (Typing.classify (classes.map Class.name) arg.type).1 = .plain →
      Resolve.EnumTag classes arg.type arg.typeClass
  result : (Typing.classify (classes.map Class.name) f.result.type).1 = .plain →
    Resolve.EnumTag classes f.result.type f.result.typeClass

section Accepted

variable {options : Header.Options} {sources : List HeaderSource} {api : Api}

/-- Every function of an interface that is accepted comes from a declared one by the names of the
interface. -/
theorem accepted_typed (accepted : (extract options sources).result = .ok api)
    {c : Class} (inApi : c ∈ api.classes) {f : Function} (inClass : f ∈ c.functions) :
    ∃ declared : Function, declared.Declared c.name c.kind ∧
      Resolve.ResolvedFunction (api.classes.map Class.name) (Resolve.enumIndex api.classes)
        declared f := by
  have classes := accepted_classes accepted
  have names : api.classes.map Class.name =
      Resolve.exposedNames (gather options {} sources).api := by
    rw [classes, List.map_map, Resolve.exposedNames]
    exact List.map_congr_left fun before _ => (Resolve.resolveClass_resolved _ _ before).name
  have index : Resolve.enumIndex api.classes =
      Resolve.enumIndex (gather options {} sources).api.classes := by
    have owned : Resolve.ownedEnums api.classes =
        Resolve.ownedEnums (gather options {} sources).api.classes := by
      rw [classes, Resolve.ownedEnums, List.flatMap_map]
      refine List.flatMap_congr fun before _ => ?_
      rw [(Resolve.resolveClass_resolved _ _ before).name,
        (Resolve.resolveClass_resolved _ _ before).enums]
    rw [Resolve.enumIndex, owned]
    rfl
  rw [classes] at inApi
  rcases List.mem_map.mp inApi with ⟨before, gathered, rfl⟩
  have resolved := Resolve.resolveClass_resolved
    (Resolve.exposedNames (gather options {} sources).api)
    (Resolve.enumIndex (gather options {} sources).api.classes) before
  rcases Related.exists_of_mem_right resolved.functions inClass with ⟨declared, inBefore, related⟩
  refine ⟨declared, ?_, ?_⟩
  · rw [resolved.name, resolved.kind]
    exact ((gathered_declared options sources).classes before gathered).functions declared inBefore
  · rw [names, index]
    exact related

end Accepted

/--
In an interface that is accepted, the value arguments outside of array groups
and the results whose types are left plain by their spelling are enum types
exactly if the name of an enum stands free in them.
-/
theorem extract_enumTyped (options : Header.Options) (sources : List HeaderSource) (api : Api)
    (accepted : (extract options sources).result = .ok api) (ascii : api.AsciiNamed) :
    ∀ c ∈ api.classes, ∀ f ∈ c.functions, f.EnumTyped api.classes := by
  intro c inApi f inClass
  have owned : Resolve.AsciiOwned api.classes := by
    rintro ⟨owner, e⟩ member
    rcases Resolve.mem_ownedEnums.mp member with ⟨c, inApi, rfl, inEnums⟩
    exact ⟨ascii.classes c inApi, ascii.enums c inApi e inEnums⟩
  have tag := Resolve.enumTag_enumOf? (accepted_names accepted) (accepted_wordNamed accepted) owned
  rcases accepted_typed accepted inApi inClass with ⟨declared, isDeclared, docs, isTyped⟩
  have groups (name : String) : f.groupOf? name = declared.groupOf? name := by
    rw [isTyped]
    rfl
  constructor
  case args =>
    intro arg member value free plain
    rw [isTyped] at member
    rcases List.mem_map.mp member with ⟨arg, _, rfl⟩
    rw [Resolve.typedArgument_isInstance] at value
    rw [Resolve.typedArgument_name, groups] at free
    rw [Resolve.typedArgument_type] at plain ⊢
    rw [Resolve.typeClass_typedArgument value free plain]
    exact tag declared.symbol arg.type
  case result =>
    intro plain
    have result : f.result = Resolve.typedResult _ _ declared := congrArg Function.result isTyped
    rw [result, Resolve.typedResult_type] at plain ⊢
    rw [Resolve.typeClass_typedResult isDeclared.resultPlain plain]
    exact tag declared.symbol declared.result.type

/-- A header with enums of similar names. -/
def similarHeader : HeaderSource where
  name := "a.h"
  text :=
    "NAPI_CLASS_SINGLETON class A\nNAPI_ENUM enum M : int \x7bX\x7d;\n" ++
      "NAPI_ENUM enum Mx : int \x7bY\x7d;\nNAPI A::M f(P<A::Mx, A::M> p, AA::M q);"

def similarApi : Api where
  classes := [
    { name := "A"
      kind := .singleton
      enums := [
        { name := "M", underlying := "int", constants := [⟨"X", "0"⟩] },
        { name := "Mx", underlying := "int", constants := [⟨"Y", "0"⟩] }]
      functions := [
        { name := "f"
          symbol := "A_f"
          args := [
            { name := "p"
              type := "P<A::Mx, A::M>"
              abiType := "const int"
              typeClass := .enumeration "A" "M" "int" },
            { name := "q", type := "AA::M", abiType := "AA::M" }]
          result :=
            { type := "A::M"
              abiType := "int"
              typeClass := .enumeration "A" "M" "int" } }] }]

theorem extract_similarHeader : (extract {} [similarHeader]).result = .ok similarApi := by
  decide +kernel

theorem asciiNamed_similarApi : similarApi.AsciiNamed := by
  constructor
  · decide
  · decide

theorem similarApi_enumTyped :
    (extract {} [similarHeader]).result = .ok similarApi ∧ similarApi.AsciiNamed ∧
      ∀ c ∈ similarApi.classes, ∀ f ∈ c.functions, f.EnumTyped similarApi.classes :=
  ⟨extract_similarHeader, asciiNamed_similarApi,
    extract_enumTyped {} [similarHeader] similarApi extract_similarHeader asciiNamed_similarApi⟩

end HeaderBindings
