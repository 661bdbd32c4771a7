import HeaderBindings.Proofs.Header.Brackets
import HeaderBindings.Proofs.Header.FunctionText
import HeaderBindings.Proofs.Interface.Declared
import Mathlib.Tactic.MkIffOfInductiveProp

/-!
# Prototypes

A prototype is what the text of a function declaration shows: a result type, a
name, and named parameters with their types and defaults.  The recognizers look
for the first word in front of a parenthesis or an equals sign, and they count
brackets; on a prototype that is written down they find the places where its
parts were put together.  So reading undoes writing, whatever follows the text.
-/

namespace HeaderBindings.Header

open Text (isBlank isWord Trimmed)

/-- A run of word characters. -/
def isName (name : String) : Bool :=
  !name.isEmpty && name.toList.all isWord

theorem nonempty_of_isName {name : String} (named : isName name = true) : name.toList ≠ [] := by
  rw [isName, Bool.and_eq_true, Bool.not_eq_true', Bool.eq_false_iff, Ne, String.isEmpty_iff] at named
  exact fun empty => named.1 (String.toList_eq_nil_iff.mp empty)

theorem isWord_of_isName {name : String} (named : isName name = true) :
    ∀ c ∈ name.toList, isWord c = true := by
  rw [isName, Bool.and_eq_true, List.all_eq_true] at named
  exact named.2

theorem not_mem_of_isName {name : String} {c : Char} (named : isName name = true)
    (notWord : Text.isWord c = false) : c ∉ name.toList :=
  fun member => Text.ne_of_isWord (isWord_of_isName named c member) notWord rfl

theorem trimmed_of_isName {name : String} (named : isName name = true) : Trimmed name :=
  ⟨fun _ => Text.isBlank_of_isWord (isWord_of_isName named _ (List.head_mem _)),
    fun _ => Text.isBlank_of_isWord (isWord_of_isName named _ (List.getLast_mem _))⟩

theorem isPiece_of_isName {name : String} (named : isName name = true) :
    isPiece name.toList = true := by
  apply isPiece_plain
  intro c member
  rw [Bool.eq_false_iff]
  intro delimiter
  exact Text.ne_of_isWord (isWord_of_isName named c member) (isWord_of_delimits delimiter) rfl

/-! ## Parameters -/

/-- A named parameter. -/
structure Parameter where
  type : String
  name : String
  default : Option String := none
  /-- Whether a space stands between the type and the name. -/
  spaced : Bool := true

namespace Parameter

variable (parameter : Parameter)

/-- The text in front of the name. -/
def front : String :=
  parameter.type ++ if parameter.spaced then " " else ""

/-- The text behind the name. -/
def back : String :=
  match parameter.default with
  | some value => " = " ++ value
  | none => ""

def text : String :=
  parameter.front ++ (parameter.name ++ parameter.back)

/-- The argument that the parameter declares. -/
def argument (replacements : List (String × String)) : Argument where
  name := parameter.name
  type := parameter.type
  abiType := Typing.withoutReference parameter.type
  default := parameter.default.map fun value => (replacements.lookup value).getD value

/-- A text that can stand as a type or as a default: trimmed, and with nested brackets. -/
@[mk_iff]
structure IsPart (text : String) : Prop where
  nonempty : text ≠ ""
  trimmed : Text.trim text = text
  nested : isPiece text.toList = true

namespace IsPart

variable {text : String} (part : IsPart text)
include part

theorem toList_ne_nil : text.toList ≠ [] :=
  fun empty => part.nonempty (String.toList_eq_nil_iff.mp empty)

theorem isTrimmed : Trimmed text := by
  rw [← part.trimmed]
  exact Text.trimmed_trim text

end IsPart

/-- The signs that a name may follow without a blank. -/
def isTypeSign (c : Char) : Bool :=
  c == '*' || c == '&' || c == '>'

/-- The parts of a parameter are those of a declaration, and the name stands apart from the type. -/
@[mk_iff]
structure WellFormed : Prop where
  name : isName parameter.name = true
  type : IsPart parameter.type
  noEquals : '=' ∉ parameter.type.toList
  allowed : refusedPart? parameter.type = none
  apart : parameter.spaced = true ∨ parameter.type.toList.getLast?.any isTypeSign = true
  default : ∀ value ∈ parameter.default, IsPart value

instance (text : String) : Decidable (IsPart text) :=
  decidable_of_iff' _ (isPart_iff text)

instance : Decidable parameter.WellFormed :=
  decidable_of_iff' _ (wellFormed_iff parameter)

variable {parameter}

namespace WellFormed

variable (wellFormed : parameter.WellFormed)
include wellFormed

/-- A blank or a sign stands in front of the name. -/
theorem exists_sign :
    ∃ sign, parameter.front.toList.getLast? = some sign ∧ (sign = ' ' ∨ isTypeSign sign = true) := by
  rw [front]
  cases spaced : parameter.spaced with
  | true => exact ⟨' ', by simp, Or.inl rfl⟩
  | false =>
      rcases wellFormed.apart with spacedOut | signed
      · rw [spaced] at spacedOut
        cases spacedOut
      · rcases (Option.any_eq_true _ _).mp signed with ⟨sign, last, isSign⟩
        refine ⟨sign, ?_, Or.inr isSign⟩
        rw [if_neg Bool.false_ne_true, String.append_empty]
        exact last

theorem front_apart : parameter.front.toList.getLast?.any isWord = false := by
  rcases wellFormed.exists_sign with ⟨sign, last, isSign⟩
  rw [last]
  simp only [isTypeSign, Bool.or_eq_true, beq_iff_eq] at isSign
  rcases isSign with rfl | (rfl | rfl) | rfl <;> rfl

theorem noEquals_front : '=' ∉ parameter.front.toList := by
  rw [front, String.toList_append, List.mem_append]
  rintro (inType | inGap)
  · exact wellFormed.noEquals inType
  · split at inGap <;> exact absurd inGap (by decide)

theorem trim_front : Text.trim parameter.front = parameter.type := by
  have kept (gap : String) :
      Text.trim (parameter.type ++ gap) = parameter.type ++ Text.trimEnd gap := by
    have indented : Text.trim ("" ++ (parameter.type ++ gap)) =
        parameter.type ++ Text.trimEnd gap :=
      Text.trim_indented gap (by simp) wellFormed.type.isTrimmed wellFormed.type.toList_ne_nil
    rwa [String.empty_append] at indented
  rw [front]
  split
  · rw [kept]
    exact String.append_empty
  · rw [kept]
    exact String.append_empty

theorem front_nonempty : parameter.front.toList ≠ [] := by
  rw [front, String.toList_append]
  exact List.append_ne_nil_of_left_ne_nil wellFormed.type.toList_ne_nil _

/-- A type and a name are told apart from the keyword for an empty list. -/
theorem text_ne_void : parameter.text ≠ "void" := by
  intro equal
  rcases wellFormed.exists_sign with ⟨sign, last, isSign⟩
  have inText : sign ∈ "void".toList := by
    rw [← equal, text, String.toList_append]
    exact List.mem_append_left _ (List.mem_of_getLast? last)
  simp only [isTypeSign, Bool.or_eq_true, beq_iff_eq] at isSign
  rcases isSign with rfl | (rfl | rfl) | rfl <;> exact absurd inText (by decide)

theorem text_nonempty : parameter.text.toList ≠ [] := by
  rw [text, String.toList_append]
  exact List.append_ne_nil_of_left_ne_nil wellFormed.front_nonempty _

theorem text_trimmed : Trimmed parameter.text := by
  have type := wellFormed.type
  have name := trimmed_of_isName wellFormed.name
  have nameNonempty := nonempty_of_isName wellFormed.name
  rw [text, front, back, String.append_assoc]
  cases default : parameter.default with
  | none =>
      dsimp only
      rw [String.append_empty]
      exact type.isTrimmed.around type.toList_ne_nil name nameNonempty _
  | some value =>
      have part := wellFormed.default value default
      have around := type.isTrimmed.around type.toList_ne_nil part.isTrimmed part.toList_ne_nil
        ((if parameter.spaced then " " else "") ++ (parameter.name ++ " = "))
      simpa only [String.append_assoc] using around

theorem text_isPiece : isPiece parameter.text.toList = true := by
  rw [text, front, back, String.toList_append, String.toList_append, String.toList_append]
  have gap : isPiece (if parameter.spaced then " " else "").toList = true := by
    split <;> decide
  refine isPiece_append (isPiece_append wellFormed.type.nested gap)
    (isPiece_append (isPiece_of_isName wellFormed.name) ?_)
  cases default : parameter.default with
  | none => rfl
  | some value =>
      rw [String.toList_append]
      exact isPiece_append (by decide) (wellFormed.default value default).nested

theorem type_eq : Text.trim (.ofList parameter.front.toList) = parameter.type := by
  rw [String.ofList_toList, wellFormed.trim_front]

/-- The name in front of an equals sign is the first word with an equals sign behind it. -/
theorem parseArgument_default
    (replacements : List (String × String)) (position : Nat) {value : String}
    (default : parameter.default = some value) :
    parseArgument replacements position parameter.text = parameter.argument replacements := by
  have isBack : parameter.back.toList = ' ' :: '=' :: ' ' :: value.toList := by
    rw [back, default, String.toList_append]
    rfl
  have found := find?_followed (nonempty_of_isName wellFormed.name)
    (isWord_of_isName wellFormed.name) wellFormed.front_apart wellFormed.noEquals_front
    (by decide : isWord '=' = false)
    (by rw [isBack]; rfl : (parameter.back.toList.dropWhile isBlank).head? = some '=')
  have read : defaultText parameter.back.toList = value := by
    rw [isBack]
    show Text.trim (.ofList (' ' :: value.toList)) = value
    rw [Text.trim_cons_blank (by decide), String.ofList_toList]
    exact (wellFormed.default value default).trimmed
  unfold parseArgument
  rw [text, String.toList_append, String.toList_append]
  dsimp only
  rw [found]
  dsimp only
  rw [wellFormed.type_eq, read, String.ofList_toList, argument, default]
  rfl

/-- The name of a parameter without a default is the last word of its text. -/
theorem parseArgument_bare
    (replacements : List (String × String)) (position : Nat)
    (default : parameter.default = none) :
    parseArgument replacements position parameter.text = parameter.argument replacements := by
  have isRun := isWord_of_isName wellFormed.name
  -- without an equals sign the recognizer falls back to the end of the text
  have noEquals : '=' ∉ parameter.front.toList ++ parameter.name.toList := by
    rw [List.mem_append]
    rintro (inFront | inName)
    · exact wellFormed.noEquals_front inFront
    · exact Text.ne_of_isWord (isRun '=' inName) (by decide) rfl
  have notFound : (Text.occurrences (parameter.front.toList ++ parameter.name.toList)).find?
      (fun word => word.next? == some '=') = none := by
    rw [List.find?_eq_none]
    intro word member followed
    exact noEquals (Text.mem_of_next? member (beq_iff_eq.mp followed))
  have last := Text.getLast?_occurrences (nonempty_of_isName wellFormed.name) isRun
    wellFormed.front_apart
  have notBlank : parameter.front.toList.all isBlank = false := by
    rw [Bool.eq_false_iff]
    intro blank
    have type := wellFormed.type_eq
    rw [Text.trim_eq_empty_of_blank blank] at type
    exact wellFormed.type.nonempty type.symm
  unfold parseArgument
  rw [text, back, default, String.append_empty, String.toList_append]
  dsimp only
  rw [notFound, last]
  dsimp only
  rw [Option.filter_some, if_pos (by simp [notBlank])]
  dsimp only
  rw [wellFormed.type_eq, String.ofList_toList, argument, default]
  rfl

/-- A parameter is read as the argument that it declares. -/
theorem parseArgument_text (replacements : List (String × String)) (position : Nat) :
    parseArgument replacements position parameter.text = parameter.argument replacements := by
  cases default : parameter.default with
  | some value => exact wellFormed.parseArgument_default replacements position default
  | none => exact wellFormed.parseArgument_bare replacements position default

end WellFormed

end Parameter

theorem parseArguments_texts {parameters : List Parameter}
    (wellFormed : ∀ parameter ∈ parameters, parameter.WellFormed)
    (replacements : List (String × String)) (function : String) (position : Nat) :
    parseArguments replacements function position (parameters.map Parameter.text) =
      .ok (parameters.map fun parameter => parameter.argument replacements) := by
  induction parameters generalizing position with
  | nil => rfl
  | cons first rest ih =>
      rcases List.forall_mem_cons.mp wellFormed with ⟨isFirst, isRest⟩
      have allowed : refusedPart? (first.argument replacements).type = none := isFirst.allowed
      rw [List.map_cons, parseArguments]
      rw [isFirst.parseArgument_text, allowed, ih isRest]
      rfl

/-! ## Result types -/

/-- A result type that stands for the receiver of a function. -/
def StandsForReceiver (owner : Class) (function type : String) : Prop :=
  type = "NSELF_RETURN" ∨
    owner.kind = .refcounted ∧
      (type = "Ref<" ++ owner.name ++ ">" ∨
        type = "void" ∧ Text.endsWith function "_selfreturn" = true)

instance (owner : Class) (function type : String) :
    Decidable (StandsForReceiver owner function type) :=
  inferInstanceAs (Decidable (_ ∨ _))

theorem readSelfReturn_eq_false {owner : Class} {function type : String}
    (other : ¬ StandsForReceiver owner function type) :
    readSelfReturn owner function type = .ok false := by
  rw [StandsForReceiver, not_or] at other
  rcases other with ⟨notMarker, notReceiver⟩
  have unmarked : (type == selfReturnMarker) = false := beq_eq_false_iff_ne.mpr notMarker
  rw [readSelfReturn, unmarked, if_neg Bool.false_ne_true]
  congr 1
  rw [Bool.eq_false_iff]
  intro returns
  simp only [Bool.and_eq_true, Bool.or_eq_true, beq_iff_eq] at returns
  exact notReceiver returns

theorem resultType_blank {c : Char} (blank : isBlank c = true) (before : List Char) :
    resultType (before ++ [c]) = resultType before := by
  have fields : Text.fields (.ofList (before ++ [c])) = Text.fields (.ofList before) := by
    rw [Text.fields, Text.fields, String.toList_ofList, String.toList_ofList,
      List.splitOnP_append_cons _ _ blank, List.filter_append]
    simp
  rw [resultType, resultType, fields]

/-! ## Declarations -/

/-- A function declaration by its parts. -/
structure Prototype where
  result : String
  name : String
  parameters : List Parameter

namespace Prototype

variable (prototype : Prototype)

def argumentList : String :=
  Text.joinWith ", " (prototype.parameters.map Parameter.text)

def text : String :=
  prototype.result ++ " " ++ prototype.name ++ "(" ++ prototype.argumentList ++ ")"

/-- The result type without storage qualifiers, its words separated by single spaces. -/
def resultType : String :=
  Header.resultType prototype.result.toList

def arguments (replacements : List (String × String)) : List Argument :=
  prototype.parameters.map fun parameter => parameter.argument replacements

/-- The function that the prototype declares in a class. -/
def function (owner : Class) (replacements : List (String × String))
    (groups : List ArrayGroup) : Function where
  name := prototype.name
  symbol := owner.name ++ "_" ++ prototype.name
  args := owner.kind.receivers ++ prototype.arguments replacements
  result := {
    type := prototype.resultType
    abiType := Typing.withoutReference prototype.resultType }
  arrayGroups := groups

/-- The parts of the prototype are those of a declaration. -/
@[mk_iff]
structure WellFormed : Prop where
  name : isName prototype.name = true
  result : prototype.resultType ≠ ""
  noParen : '(' ∉ prototype.result.toList
  allowed : refusedPart? prototype.resultType = none
  parameters : ∀ parameter ∈ prototype.parameters, parameter.WellFormed

instance : Decidable prototype.WellFormed :=
  decidable_of_iff' _ (wellFormed_iff prototype)

variable {prototype}

theorem arrayGroups_arguments
    {kind : ClassKind} {replacements : List (String × String)} {groups : List ArrayGroup}
    (grouped : Typing.Grouped (prototype.arguments replacements) groups)
    (suffix : groups ≠ [] ↔ Text.endsWith prototype.name "_c" = true) :
    Typing.arrayGroups prototype.name (kind.receivers ++ prototype.arguments replacements) =
      .ok groups := by
  have isValue : ∀ arg ∈ prototype.arguments replacements, arg.isInstance = false := by
    intro arg member
    rcases List.mem_map.mp member with ⟨parameter, _, rfl⟩
    rfl
  exact (ClassKind.arrayGroups_eq_ok_iff isValue).mpr ⟨grouped, suffix⟩

namespace WellFormed

variable (wellFormed : prototype.WellFormed)
include wellFormed

theorem splitArguments_argumentList :
    splitArguments prototype.argumentList = .ok (prototype.parameters.map Parameter.text) := by
  have ofText {P : String → Prop}
      (holds : ∀ parameter ∈ prototype.parameters, P parameter.text) :
      ∀ text ∈ prototype.parameters.map Parameter.text, P text :=
    List.forall_mem_map.mpr holds
  apply splitArguments_joinWith
  · exact ofText fun parameter member => (wellFormed.parameters parameter member).text_isPiece
  · exact ofText fun parameter member => (wellFormed.parameters parameter member).text_trimmed
  · exact ofText fun parameter member => (wellFormed.parameters parameter member).text_nonempty
  · intro single
    have isText : "void" ∈ prototype.parameters.map Parameter.text := by
      rw [single]
      exact List.mem_cons_self
    rcases List.mem_map.mp isText with ⟨parameter, member, equal⟩
    exact (wellFormed.parameters parameter member).text_ne_void equal

theorem toClosingParen?_argumentList (after : List Char) :
    toClosingParen? 0 (prototype.argumentList.toList ++ ')' :: after) =
      some (prototype.argumentList.toList, after) := by
  have pieces : ∀ text ∈ prototype.parameters.map Parameter.text, isPiece text.toList = true :=
    List.forall_mem_map.mpr fun parameter member =>
      (wellFormed.parameters parameter member).text_isPiece
  rw [argumentList, toClosingParen?_joinWith pieces]
  show some (_ ++ [], after) = _
  rw [List.append_nil]

/-- The name is the first word in front of a parenthesis, as the result type has none. -/
theorem functionName?_text (tail : String) :
    functionName? (prototype.text ++ tail) =
      some ⟨prototype.result.toList ++ [' '], prototype.name.toList,
        '(' :: (prototype.argumentList.toList ++ ')' :: tail.toList)⟩ := by
  have chars : (prototype.text ++ tail).toList =
      (prototype.result.toList ++ [' ']) ++ (prototype.name.toList ++
        '(' :: (prototype.argumentList.toList ++ ')' :: tail.toList)) := by
    simp [text]
  have apart : (prototype.result.toList ++ [' ']).getLast?.any isWord = false := by
    rw [List.getLast?_concat]
    rfl
  have noParen : '(' ∉ prototype.result.toList ++ [' '] := by
    rw [List.mem_append]
    rintro (inResult | inBlank)
    · exact wellFormed.noParen inResult
    · exact absurd inBlank (by decide)
  rw [functionName?, chars]
  exact find?_followed (nonempty_of_isName wellFormed.name) (isWord_of_isName wellFormed.name)
    apart noParen (by decide) rfl

end WellFormed

/-- Reading a declaration undoes writing it, whatever follows. -/
theorem parseFunction_text
    {owner : Class} {replacements : List (String × String)} {groups : List ArrayGroup}
    (wellFormed : prototype.WellFormed)
    (ownResult : ¬ StandsForReceiver owner prototype.name prototype.resultType)
    (grouped : Typing.Grouped (prototype.arguments replacements) groups)
    (suffix : groups ≠ [] ↔ Text.endsWith prototype.name "_c" = true)
    (tail : String) :
    parseFunction owner replacements (prototype.text ++ tail) =
      .ok (prototype.function owner replacements groups) := by
  have opened : (('(' :: (prototype.argumentList.toList ++ ')' :: tail.toList)).dropWhile
      isBlank).tail = prototype.argumentList.toList ++ ')' :: tail.toList :=
    rfl
  have declared : Header.resultType (prototype.result.toList ++ [' ']) = prototype.resultType :=
    resultType_blank (by decide) prototype.result.toList
  have nonempty : prototype.resultType.isEmpty = false := by
    rw [Bool.eq_false_iff, Ne, String.isEmpty_iff]
    exact wellFormed.result
  have receivers : (if owner.isSingleton then [] else [Argument.receiver]) =
      owner.kind.receivers :=
    rfl
  have values (position : Nat) :
      parseArguments replacements prototype.name position
        (prototype.parameters.map Parameter.text) = .ok (prototype.arguments replacements) :=
    parseArguments_texts wellFormed.parameters replacements prototype.name position
  unfold parseFunction
  rw [wellFormed.functionName?_text]
  dsimp only
  rw [opened, wellFormed.toClosingParen?_argumentList]
  dsimp only
  rw [String.ofList_toList, String.ofList_toList, declared, nonempty, receivers,
    readSelfReturn_eq_false ownResult, wellFormed.splitArguments_argumentList]
  simp only [bind, Except.bind, pure, Except.pure, Except.mapError, Bool.false_eq_true, if_false,
    wellFormed.allowed, values, arrayGroups_arguments grouped suffix]
  rfl

/-- Commas, brackets and equals signs inside the types and the defaults of a function. -/
def nested : Prototype where
  result := "static\tconst Map<int, Vector<float>>  &"
  name := "blend_c"
  parameters := [
    { type := "const Map<K, V> &", name := "table", spaced := false
      default := some "make<K, V>(1, \x7b2, 3\x7d)" },
    { type := "Callback<void(int, float)>", name := "callback"
      default := some "[](int a, float b) \x7breturn a == f(b);\x7d" },
    { type := "const float *", name := "weights_data", spaced := false },
    { type := "uint64_t", name := "weights_size", default := some "size[1, 2]" }]

def mesh : Class where
  name := "Mesh"
  kind := .refcounted

theorem nested_read :
    nested.WellFormed ∧
    ¬ StandsForReceiver mesh nested.name nested.resultType ∧
    Typing.Grouped (nested.arguments [("size[1, 2]", "2")])
      [.data "weights" "weights_data" "weights_size" "float"] ∧
    Text.endsWith nested.name "_c" = true ∧
    parseFunction mesh [("size[1, 2]", "2")] (nested.text ++ " const; // (") =
      .ok (nested.function mesh [("size[1, 2]", "2")]
        [.data "weights" "weights_data" "weights_size" "float"]) := by
  have wellFormed : nested.WellFormed := by decide +kernel
  have ownResult : ¬ StandsForReceiver mesh nested.name nested.resultType := by decide +kernel
  have isValue : ∀ arg ∈ nested.arguments [("size[1, 2]", "2")], arg.isInstance = false := by
    decide
  have read : Typing.groupsAfter nested.name none (nested.arguments [("size[1, 2]", "2")]) =
      .ok [.data "weights" "weights_data" "weights_size" "float"] := by decide +kernel
  have grouped := Typing.grouped_of_groupsAfter isValue (by simp) read
  have suffix : Text.endsWith nested.name "_c" = true := by decide
  exact ⟨wellFormed, ownResult, grouped, suffix,
    parseFunction_text wellFormed ownResult grouped (by simp [suffix]) " const; // ("⟩

end Prototype

end HeaderBindings.Header
