import HeaderBindings.Proofs.Binding.ConstantNumbers
import HeaderBindings.Proofs.Binding.EnumMembers

/-!
# Numbers in the managed wrapper

The numbers of the headers stand in the wrapper as defaults of parameters and
as values of enum constants.  Which literals keep their number depends on the
place: a default goes through the recognition of number literals, the value of
a constant is rewritten word by word.
-/

namespace HeaderBindings

namespace Managed

namespace DeclaredNumber

/-- What a literal must be like to keep its number as the default of a parameter of a type. -/
def Kept (type : String) : DeclaredNumber → Prop
  | integer literal => literal.radix = .octal → literal.value < 8
  | real literal => literal.fraction ≠ some [] ∧ literal.value < limitFor type

/-- A literal that is recognized as the default of a parameter. -/
theorem numberLiteral_chars (literal : DeclaredNumber)
    (recognized : isUnsignedNumber literal.chars = true) (type : String)
    {sign : List Char} (isSign : sign ∈ signs) :
    ∃ emitted,
      numberLiteral type (.ofList (sign ++ literal.chars)) = .ofList (sign ++ emitted) ∧
      (literalNumber? emitted = some literal.value ↔ literal.Kept type) := by
  cases literal with
  | integer literal => exact DeclaredInteger.numberLiteral_chars recognized type isSign
  | real literal => exact DeclaredReal.numberLiteral_chars recognized type isSign

theorem ne_sign (literal : DeclaredNumber) : ∀ c ∈ literal.chars.head?, c ≠ '-' ∧ c ≠ '+' := by
  have apart {c : Char} (starts : c.isDigit = true ∨ c = '.') : c ≠ '-' ∧ c ≠ '+' := by
    constructor
    · rintro rfl
      exact absurd starts (by decide)
    · rintro rfl
      exact absurd starts (by decide)
  intro c first
  cases literal with
  | integer literal =>
      rcases literal.exists_digit with ⟨d, rest, starts, digit⟩
      rw [chars, DeclaredInteger.chars, ← List.append_assoc, starts] at first
      cases first
      exact apart (Or.inl digit)
  | real literal =>
      rcases literal.isWhole with empty | isQuoted
      · rcases literal.hasDigits with nonempty | ⟨part, isPart, _⟩
        · exact absurd empty nonempty
        · rw [chars, DeclaredReal.chars, DeclaredReal.core, empty, Option.mem_def.mp isPart]
            at first
          cases first
          exact apart (Or.inr rfl)
      · rcases isQuoted.exists_cons with ⟨d, rest, starts, digit⟩
        rw [chars, DeclaredReal.chars, DeclaredReal.core, starts] at first
        cases first
        exact apart (Or.inl digit)

end DeclaredNumber

/-- The default of an argument in the signature of a method, if it is recognized as a number. -/
def DefaultKept (keeps : String → DeclaredNumber → Prop) (f : Function) (arg : Argument)
    (share : Share) : Prop :=
  ∀ (text : String) (sign : List Char) (literal : DeclaredNumber),
    f.groupOf? arg.name = none → arg.default = some text →
    sign ∈ signs → Text.trim text = .ofList (sign ++ literal.chars) →
    isNumberLiteral (Text.trim text) = true →
    ∃ emitted, share.param.bind Param.default = some (.ofList (sign ++ emitted)) ∧
      (literalNumber? emitted = some literal.value ↔
        keeps (visibleType arg.type arg.typeClass) literal)

/-- The value of a constant in an enum, if it is an integer literal. -/
def ConstantKept (keeps : DeclaredInteger → Prop) (constant : EnumConstant) (member : EnumMember) :
    Prop :=
  ∀ (sign : List Char) (literal : DeclaredInteger),
    sign ∈ signs → constant.value = .ofList (sign ++ literal.chars) →
    ∃ emitted, member.value = .ofList (sign ++ emitted) ∧
      (literalNumber? emitted = some (literal.value : ℚ) ↔ keeps literal)

/-- The numbers of a class in the wrapper: they keep their signs, and their numbers in so far as
`keepsDefault` and `keepsConstant` say. -/
structure NumbersKept (keepsDefault : String → DeclaredNumber → Prop)
    (keepsConstant : DeclaredInteger → Prop) (c : Class) (definition : ClassDefinition) : Prop where
  defaults : List.Forall₂
    (fun f m => List.Forall₂ (DefaultKept keepsDefault f) (f.ownArgs c) m.shares)
    c.functions definition.methods
  constants : List.Forall₂
    (fun e d => List.Forall₂ (ConstantKept keepsConstant) e.constants d.members)
    c.enums definition.enums

section

variable {enums : EnumTable} {apiName : String} {c : Class}

/-- A text that is recognized as a number stays in the signature. -/
theorem ofText_number {arg : Argument} {text : String}
    (recognized : isNumberLiteral (Text.trim text) = true) :
    Default.ofText enums arg text =
      .constant (numberLiteral (visibleType arg.type arg.typeClass) (Text.trim text)) := by
  have words : ∀ word ∈ ["nullptr", "NULL", "true", "false"], isNumberLiteral word = false := by
    decide
  have absent : Text.trim text ∉ ["nullptr", "NULL", "true", "false"] := by
    intro member
    rw [words _ member] at recognized
    cases recognized
  simp only [List.mem_cons, List.not_mem_nil, or_false, not_or] at absent
  rw [Default.ofText]
  simp [absent, recognized]

theorem ofArgument_defaultKept (loader : String) (f : Function) (arg : Argument) :
    DefaultKept DeclaredNumber.Kept f arg (Share.ofArgument enums loader f arg) := by
  intro text sign literal alone written isSign isText recognized
  have isUnsigned : isUnsignedNumber literal.chars = true := by
    rwa [isText, isNumberLiteral_signed isSign literal.ne_sign] at recognized
  rcases literal.numberLiteral_chars isUnsigned (visibleType arg.type arg.typeClass) isSign with
    ⟨emitted, isEmitted, keeps⟩
  refine ⟨emitted, ?_, keeps⟩
  rw [Share.ofArgument, alone, Share.ofSingle, written, Option.map_some, ofText_number recognized,
    isText, isEmitted]
  rfl

theorem ofFunction_defaultsKept {f : Function} {m : Method}
    (made : Method.ofFunction enums apiName c f = .ok m) :
    List.Forall₂ (DefaultKept DeclaredNumber.Kept f) (f.ownArgs c) m.shares := by
  rcases ofFunction_ok made with ⟨_, shares, _⟩
  have ownShares : m.shares =
      (f.ownArgs c).map (Share.ofArgument enums (loaderName apiName) f) := shares
  rw [ownShares, List.forall₂_map_right_iff]
  exact List.forall₂_same.mpr fun arg _ => ofArgument_defaultKept _ f arg

theorem ofConstant_kept
    {names : EnumNames} {owner enumName : String} {constant : EnumConstant} {member : EnumMember}
    (made : EnumMember.ofConstant names owner enumName constant = .ok member) :
    ConstantKept DeclaredInteger.KeptInEnum constant member := by
  intro sign literal isSign isValue
  rw [EnumMember.ofConstant] at made
  split at made
  · cases made
    rw [isValue]
    exact literal.constantValue_chars names isSign
  · cases made

theorem ofEnum_constantsKept {owner : String} {e : EnumType} {d : EnumDefinition}
    (made : EnumDefinition.ofEnum enums owner e = .ok d) :
    List.Forall₂ (ConstantKept DeclaredInteger.KeptInEnum) e.constants d.members := by
  rw [EnumDefinition.ofEnum] at made
  split at made
  · cases made
  · rcases Outcome.bind_eq_ok_iff.mp made with ⟨members, membersOk, equal⟩
    cases equal
    exact (Outcome.mapM_eq_ok_iff.mp membersOk).imp fun _ _ => ofConstant_kept

theorem ofClass_numbersKept {definition : ClassDefinition}
    (written : ClassDefinition.ofClass enums apiName c = .ok definition) :
    NumbersKept DeclaredNumber.Kept DeclaredInteger.KeptInEnum c definition where
  defaults := (ofClass_methods written).imp fun _ _ => ofFunction_defaultsKept
  constants := (ofClass_enums written).imp fun _ _ => ofEnum_constantsKept

end

end Managed

/-- In every managed wrapper, a number keeps its sign.  A literal that is recognized as a default
keeps its number unless it is an octal one of several digits, has no digit behind its decimal point
or is too large for its parameter; the value of a constant keeps its number unless it is such an
octal one, has quotes or has a suffix that stays and is none in C#. -/
theorem Api.numbersKept (api : Api) (apiName : String) (classes : List Managed.ClassDefinition)
    (written : Managed.classesOf api.withLifecycle apiName = .ok classes) :
    List.Forall₂ (fun c definition =>
      Managed.NumbersKept Managed.DeclaredNumber.Kept Managed.DeclaredInteger.KeptInEnum
        c.withLifecycle definition)
      api.classes classes := by
  rcases Managed.written_classes written with ⟨enums, _, related⟩
  exact related.imp fun _ _ => Managed.ofClass_numbersKept

/-- Numbers that are written in several ways. -/
def numberedHeader : HeaderSource :=
  { name := "a.h"
    text :=
      "NAPI_CLASS_SINGLETON class A\nNAPI_ENUM enum E : int\x7bX = 0x1Fu, Y = 0b1ll\x7d;\n" ++
        "NAPI void f(int a = 010, float b = 1.f);" }

/-- An argument of `numberedApi`. -/
def numericArgument (type name default : String) : Argument where
  name := name
  type := type
  abiType := type
  default := some default
  typeClass := .basicValue type

def numberedApi : Api :=
  { classes := [
      { name := "A"
        kind := .singleton
        enums := [
          { name := "E", underlying := "int", constants := [⟨"X", "0x1Fu"⟩, ⟨"Y", "0b1ll"⟩] }]
        functions := [
          { name := "f"
            symbol := "A_f"
            args := [numericArgument "int" "a" "010", numericArgument "float" "b" "1.f"]
            result := .void }] }] }

/-- The managed class of `numberedApi`. -/
def numberedClass : Managed.ClassDefinition where
  docs := []
  name := "A"
  isStatic := true
  enums := [{ name := "E", underlying := "int", members := [⟨"X", "0x1F"⟩, ⟨"Y", "0b1ll"⟩] }]
  properties := []
  methods := [
    { docs := []
      modifiers := "public static"
      resultType := "void"
      name := "F"
      passesInstance := false
      shares := [
        { param := some ⟨"int", "a", some "010"⟩, passed := "a" },
        { param := some ⟨"float", "b", some "1.f"⟩, passed := "b" }]
      received := .nothing
      fallback := none
      mayDisable := true
      delegate := {
        symbol := "A_f"
        resultType := "void"
        params := [⟨"int", "a", none⟩, ⟨"float", "b", none⟩] } }]

theorem extract_numberedHeader :
    (extract {} [numberedHeader]).result = .ok numberedApi := by
  decide +kernel

theorem classesOf_numberedApi :
    Managed.classesOf numberedApi.withLifecycle "lib" = .ok [numberedClass] := by
  decide +kernel

theorem numberedApi_numbersKept :
    (extract {} [numberedHeader]).result = .ok numberedApi ∧
      Managed.classesOf numberedApi.withLifecycle "lib" = .ok [numberedClass] ∧
      List.Forall₂ (fun c definition =>
        Managed.NumbersKept Managed.DeclaredNumber.Kept Managed.DeclaredInteger.KeptInEnum
          c.withLifecycle definition)
        numberedApi.classes [numberedClass] :=
  ⟨extract_numberedHeader, classesOf_numberedApi,
    numberedApi.numbersKept "lib" [numberedClass] classesOf_numberedApi⟩

/-- The default of the second parameter in `numberedApi`. -/
def pointedOne : Managed.DeclaredReal where
  whole := ['1']
  fraction := some []
  suffix := ['f']
  isWhole := Or.inr (.last rfl)
  isFraction := by simp
  hasDigits := by simp
  isReal := by simp
  isSuffix := by decide
  fits := by decide +kernel

/-- The numbers of the headers are not always kept. -/
theorem numbers_not_always_kept :
    ¬ ∀ (options : Header.Options) (sources : List HeaderSource) (api : Api),
      (extract options sources).result = .ok api →
        ∀ apiName classes, Managed.classesOf api.withLifecycle apiName = .ok classes →
          List.Forall₂ (fun c definition =>
            Managed.NumbersKept (fun _ _ => True) (fun _ => True) c.withLifecycle definition)
            api.classes classes := by
  intro always
  have related := always {} [numberedHeader] numberedApi extract_numberedHeader "lib" _
    classesOf_numberedApi
  rcases related with _ | ⟨kept, _⟩
  rcases kept.defaults with _ | ⟨shares, _⟩
  rcases shares with _ | ⟨_, shares⟩
  rcases shares with _ | ⟨second, _⟩
  rcases second "1.f" [] (.real pointedOne) (by decide) rfl (by decide) (by decide) (by decide) with
    ⟨emitted, isEmitted, denotes⟩
  have isText : emitted = "1.f".toList := (String.ofList_injective (Option.some.inj isEmitted)).symm
  have read : Managed.literalNumber? "1.f".toList = none := by decide +kernel
  rw [isText, read] at denotes
  exact absurd (denotes.mpr trivial) (by simp)

end HeaderBindings
