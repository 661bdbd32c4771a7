import HeaderBindings.Proofs.Header.Heading
import HeaderBindings.Proofs.Header.Layout
import HeaderBindings.Proofs.Header.StringLiteral

/-!
# String literals as defaults

A line comment is looked for outside of literals, but the end of an argument
list and its commas are looked for everywhere.  So the declaration of a
parameter with a string literal as its default is read as it is written exactly
if the brackets and the commas in the literal happen to have no part in the
list, and if no comment seems to start in it.
-/

namespace HeaderBindings.Header

open BracketCount (parens)
open Preprocessor (Conditions Directive)
open Text (isBlank isWord Trimmed)

/-! ## The parameter -/

/-- A parameter for a text, with a default. -/
def stringParameter (value : String) : Parameter where
  type := "const char *"
  name := "s_string"
  default := some value
  spaced := false

def stringHeading : Heading where
  result := "void"
  name := "f_c"

/-- The function of a class with one parameter for a text. -/
def stringFunction (owner : Class) (value : String) : Function :=
  stringHeading.function owner [(stringParameter value).argument []] [.text "s" "s_string"]

/-- The text of the parameter in front of its default. -/
def stringLead : String :=
  "const char *s_string ="

section

variable {owner : Class} {replacements : List (String × String)} {position : Nat} {value : String}

theorem stringHeading_wellFormed (owner : Class) : stringHeading.WellFormed owner where
  name := by decide
  result := by decide +kernel
  noParen := by decide
  allowed := by decide +kernel
  ownResult := by
    have resultType : stringHeading.resultType = "void" := by decide +kernel
    rw [resultType, StandsForReceiver]
    rintro (isMarker | ⟨-, isReceiver | ⟨-, isSuffix⟩⟩)
    · exact absurd isMarker (by decide)
    · have heads := congrArg (fun text : String => text.toList.head?) isReceiver
      simp at heads
    · exact absurd isSuffix (by decide)

theorem arrayGroups_string :
    Typing.arrayGroups stringHeading.name
        (owner.kind.receivers ++ [(stringParameter value).argument []]) =
      .ok [.text "s" "s_string"] := by
  rw [ClassKind.arrayGroups_eq_ok_iff (by simp; rfl)]
  refine ⟨Typing.Grouped.text ?_ ?_ Typing.Grouped.nil, by decide⟩
  · rfl
  · show Text.without "const char *" ' ' = "constchar*"
    decide

theorem argument_string (noReplacement : replacements.lookup value = none) :
    (stringParameter value).argument replacements = (stringParameter value).argument [] := by
  simp [Parameter.argument, stringParameter, noReplacement]

/-- The default is the trimmed text behind the equals sign. -/
theorem parseArgument_stringLead {after : List Char} (oneEquals : after.head? ≠ some '=') :
    parseArgument replacements position (stringLead ++ .ofList after) =
      (stringParameter (Text.trim (.ofList after))).argument replacements := by
  have chars : (stringLead ++ .ofList after).toList =
      "const char *".toList ++ ("s_string".toList ++ ' ' :: '=' :: after) := by
    rw [String.toList_append, String.toList_ofList]
    rfl
  have found := find?_followed (by decide : "s_string".toList ≠ [])
    (List.all_eq_true.mp (by decide : "s_string".toList.all isWord = true))
    (by decide : ("const char *".toList).getLast?.any isWord = false)
    (by decide : '=' ∉ "const char *".toList) (by decide : isWord '=' = false)
    (rfl : ((' ' :: '=' :: after).dropWhile isBlank).head? = some '=')
  have read : defaultText (' ' :: '=' :: after) = Text.trim (.ofList after) := by
    show Text.trim (.ofList (after.dropWhile (· == '='))) = _
    congr 2
    cases after with
    | nil => rfl
    | cons c rest => rw [List.dropWhile_cons_of_neg (by simpa using oneEquals)]
  have type : Text.trim (.ofList "const char *".toList) = "const char *" := by decide +kernel
  unfold parseArgument
  rw [chars]
  dsimp only
  rw [found]
  dsimp only
  rw [read, type]
  rfl

/-- The default alone settles whether the parameter can stand in a list. -/
theorem listable_stringLead_append_iff {text : List Char} :
    Listable (stringLead.toList ++ ' ' :: text) ↔ Listable text := by
  have lead : Listable (stringLead.toList ++ [' ']) := listable_of_any (by decide)
  rw [List.append_cons]
  exact lead.append_iff

theorem trimmed_stringLead : Trimmed stringLead :=
  Text.trimmed_of_ends (by decide) (by decide : isBlank 'c' = false) (by decide)
    (by decide : isBlank '=' = false)

theorem head?_stringLead (after : List Char) : (stringLead.toList ++ after).head? = some 'c' :=
  rfl

/-- A default is read if it has no part in the argument list. -/
theorem parseFunction_string_of_listable
    (trimmed : Trimmed value) (nonempty : value.toList ≠ []) (listable : Listable value.toList)
    (noReplacement : replacements.lookup value = none) (tail : List Char) :
    parseFunction owner replacements
        (stringHeading.text ++ (stringLead ++ .ofList (' ' :: (value.toList ++ ')' :: tail)))) =
      .ok (stringFunction owner value) := by
  obtain ⟨whole, isWhole⟩ : ∃ whole, whole = stringLead ++ .ofList (' ' :: value.toList) :=
    ⟨_, rfl⟩
  have chars : whole.toList = stringLead.toList ++ ' ' :: value.toList := by
    rw [isWhole, String.toList_append, String.toList_ofList]
  have isListable : Listable whole.toList := by
    rw [chars]
    exact listable_stringLead_append_iff.mpr listable
  have wholeTrimmed : Trimmed whole := by
    refine Text.trimmed_of_ends (chars ▸ head?_stringLead _) (by decide) ?_
      (trimmed.finish nonempty)
    rw [chars, List.getLast?_append_of_ne_nil _ (List.cons_ne_nil _ _),
      List.getLast?_cons_of_ne_nil nonempty, List.getLast?_eq_some_getLast nonempty]
  have notVoid : [whole] ≠ ["void"] := by
    intro same
    have heads := congrArg (fun text : String => text.toList.head?) (List.head_eq_of_cons_eq same)
    rw [chars, head?_stringLead] at heads
    exact absurd heads (by decide)
  have split : splitArguments whole = .ok [whole] := by
    have joined := splitArguments_texts
      (List.forall_mem_singleton.mpr ⟨wholeTrimmed, isListable.undivided⟩)
      (List.forall_mem_singleton.mpr (by simp [chars])) notVoid
    rwa [Text.joinWith_singleton] at joined
  have read (position : Nat) : parseArgument replacements position whole =
      (stringParameter value).argument [] := by
    have trimmedValue : Text.trim (.ofList (' ' :: value.toList)) = value := by
      rw [Text.trim_cons_blank (by decide), String.ofList_toList, trimmed.trim_eq]
    rw [isWhole, parseArgument_stringLead (by simp), trimmedValue, argument_string noReplacement]
  have allowed : refusedPart? "const char *" = none := by decide +kernel
  refine (stringHeading_wellFormed owner).parseFunction_eq_ok_iff.mpr
    ⟨whole.toList, tail, [whole], [(stringParameter value).argument []], [.text "s" "s_string"],
      toClosingParen?_eq_some_iff.mpr ⟨?_, BracketCount.balanced_iff_foldlM.mp isListable.parens⟩,
      ?_, parseArguments_eq_ok_iff.mpr ⟨?_, List.forall_mem_singleton.mpr allowed⟩,
      arrayGroups_string, rfl⟩
  · rw [chars]
    simp
  · rw [String.ofList_toList]
    exact split
  · rw [List.mapIdx_cons, read]
    rfl

/-- The only text that trimming turns into the default, and that ends with the parenthesis behind
it, is the default itself. -/
theorem eq_of_trim_eq {behind after tail : List Char}
    (nonempty : value.toList ≠ []) (read : Text.trim (.ofList behind) = value)
    (starts : behind ++ ')' :: after <+: value.toList ++ ')' :: tail) :
    behind = value.toList := by
  have trimmed : Trimmed value := read ▸ Text.trimmed_trim _
  rcases Text.exists_trim (.ofList behind) with ⟨front, back, split, frontBlank, backBlank⟩
  rw [String.toList_ofList, read] at split
  subst split
  -- a blank can stand neither for the start of the default nor for the parenthesis
  obtain rfl : front = [] := by
    cases front with
    | nil => rfl
    | cons c front =>
        have notBlank := trimmed.start nonempty
        have blank := frontBlank c List.mem_cons_self
        cases chars : value.toList with
        | nil => exact absurd chars nonempty
        | cons d rest =>
            simp only [chars, List.cons_append, List.cons_prefix_cons] at starts
            simp only [chars, List.head_cons, ← starts.1, blank] at notBlank
            cases notBlank
  rw [List.nil_append, List.append_assoc, List.prefix_append_right_inj] at starts
  cases back with
  | nil => rw [List.nil_append, List.append_nil]
  | cons c back =>
      have blank := backBlank c List.mem_cons_self
      rw [List.cons_append, List.cons_prefix_cons] at starts
      rw [starts.1] at blank
      exact absurd blank (by decide)

/-- A list with one argument is the trimmed text of it. -/
theorem splitArguments_eq_singleton {args piece : String}
    (notBlank : Text.trim args ≠ "") (notVoid : Text.trim args ≠ "void")
    (read : splitArguments args = .ok [piece]) :
    piece = Text.trim args ∧ Undivided args.toList := by
  rcases splitArguments_ok notBlank notVoid read with ⟨between, undivided⟩
  have single : (outerCommas (Text.trim args).toList).length + 1 = 1 := by
    have lengths := congrArg List.length between
    rw [outerPieces, List.length_map, length_slicesFrom] at lengths
    exact lengths.symm
  have isTrim : piece = Text.trim args := by
    rw [outerPieces, List.length_eq_zero_iff.mp (Nat.succ.inj single)] at between
    rw [List.singleton_inj.mp between]
    show Text.trim (.ofList (Text.trim args).toList) = _
    rw [String.ofList_toList, (Text.trimmed_trim args).trim_eq]
  refine ⟨isTrim, ?_⟩
  rw [← undivided_trim, ← isTrim]
  exact undivided piece List.mem_cons_self

/-- Trimming leaves what stands in front of the default. -/
theorem trim_stringLead (behind : List Char) :
    Text.trim (.ofList (stringLead.toList ++ behind)) =
      stringLead ++ Text.trimEnd (.ofList behind) := by
  have whole : Text.trim ("" ++ (stringLead ++ .ofList behind)) = _ :=
    Text.trim_indented _ (by simp) trimmed_stringLead (by decide)
  rw [String.empty_append] at whole
  rw [String.ofList_append, String.ofList_toList]
  exact whole

theorem trim_stringLead_ne {text : String} (other : text.toList.head? ≠ some 'c')
    (behind : List Char) : Text.trim (.ofList (stringLead.toList ++ behind)) ≠ text := by
  rintro rfl
  rw [trim_stringLead, String.toList_append, head?_stringLead] at other
  exact other rfl

/-- The argument list ends behind the equals sign. -/
theorem exists_of_stringLead {shown list after : List Char}
    (isText : stringLead.toList ++ shown = list ++ ')' :: after) :
    ∃ behind, list = stringLead.toList ++ behind ∧ shown = behind ++ ')' :: after := by
  rcases List.append_eq_append_iff.mp isText with
    ⟨behind, isList, isShown⟩ | ⟨more, isLead, isClosed⟩
  · exact ⟨behind, isList, isShown⟩
  · cases more with
    | nil => exact ⟨[], by simpa using isLead.symm, by simpa using isClosed.symm⟩
    | cons c more =>
        obtain rfl : ')' = c := (List.cons.inj isClosed).1
        have noClose : ')' ∉ stringLead.toList := by decide
        exact absurd (isLead ▸ List.mem_append_right _ List.mem_cons_self) noClose

/-- If the default is read, then it has no part in the argument list, and it is shown as a whole. -/
theorem listable_of_parseFunction_string {shown tail : List Char}
    (nonempty : value.toList ≠ [])
    (starts : shown <+: ' ' :: (value.toList ++ ')' :: tail))
    (read : parseFunction owner [] (stringHeading.text ++ (stringLead ++ .ofList shown)) =
      .ok (stringFunction owner value)) :
    Listable value.toList ∧ value.toList.length + 2 ≤ shown.length := by
  rcases (stringHeading_wellFormed owner).parseFunction_eq_ok_iff.mp read with
    ⟨list, after, pieces, values, groups, closed, split, readValues, -, equal⟩
  rcases toClosingParen?_eq_some_iff.mp closed with ⟨isText, steps⟩
  rw [String.toList_append, String.toList_ofList] at isText
  rcases exists_of_stringLead isText with ⟨behind, rfl, rfl⟩
  obtain ⟨behind, rfl⟩ : ∃ rest, behind = ' ' :: rest := by
    cases behind with
    | nil => exact absurd (List.cons_prefix_cons.mp starts).1 (by decide)
    | cons c rest => exact ⟨rest, by rw [(List.cons_prefix_cons.mp starts).1]⟩
  have startsBehind := (List.cons_prefix_cons.mp starts).2
  have oneEquals : (Text.dropEndWhile isBlank (String.ofList (' ' :: behind)).toList).head? ≠
      some '=' := by
    rw [Ne, ← List.singleton_prefix_iff_head?_eq_some, String.toList_ofList]
    intro first
    have inText := first.trans (List.rdropWhile_prefix isBlank (' ' :: behind))
    exact absurd (List.cons_prefix_cons.mp inText).1 (by decide)
  have isValues : values = [(stringParameter value).argument []] := by
    have args := congrArg Function.args equal
    rw [stringFunction, Heading.function, Heading.function, List.append_cancel_left_eq] at args
    exact args.symm
  rcases parseArguments_eq_ok_iff.mp readValues with ⟨isRead, -⟩
  rw [isValues] at isRead
  rcases pieces with _ | ⟨piece, _ | ⟨second, pieces⟩⟩
  · cases isRead
  · rcases splitArguments_eq_singleton (trim_stringLead_ne (by decide) _)
      (trim_stringLead_ne (by decide) _) split with ⟨rfl, undivided⟩
    rw [String.toList_ofList] at undivided
    rw [List.mapIdx_cons, List.mapIdx_nil, List.singleton_inj, trim_stringLead, Text.trimEnd,
      parseArgument_stringLead oneEquals] at isRead
    have isTrim : Text.trim (.ofList behind) = value := by
      have default := Option.some.inj (congrArg Argument.default isRead)
      dsimp only [List.lookup_nil, Option.getD_none] at default
      rw [default, ← Text.trimEnd, Text.trim_trimEnd, Text.trim_cons_blank (by decide)]
    obtain rfl := eq_of_trim_eq nonempty isTrim startsBehind
    have listable : Listable (stringLead.toList ++ ' ' :: value.toList) :=
      ⟨undivided, BracketCount.balanced_iff_foldlM.mpr steps⟩
    refine ⟨listable_stringLead_append_iff.mp listable, ?_⟩
    simp only [List.length_append, List.length_cons]
    omega
  · have lengths := congrArg List.length isRead
    simp at lengths

end

/-! ## The line -/

/-- The line of a header that declares the function. -/
def stringLine (value : String) : String :=
  "NAPI void f_c(const char *s_string = " ++ (value ++ ");")

variable {value : String}

/-- The line with some text in place of the default and of what follows it. -/
def stringLineUpTo (shown : List Char) : String :=
  Item.function.spelling ++ (" " ++ (stringHeading.text ++ (stringLead ++ .ofList shown)))

theorem toList_stringLineUpTo (shown : List Char) :
    (stringLineUpTo shown).toList = "NAPI void f_c(const char *s_string =".toList ++ shown := by
  have lead : "NAPI void f_c(const char *s_string =" =
      Item.function.spelling ++ (" " ++ (stringHeading.text ++ stringLead)) := by decide +kernel
  rw [stringLineUpTo, lead]
  simp only [String.toList_append, String.toList_ofList, List.append_assoc]

theorem stringLine_eq (value : String) :
    stringLine value = stringLineUpTo (' ' :: (value.toList ++ [')', ';'])) := by
  have lead : "NAPI void f_c(const char *s_string = " =
      "NAPI void f_c(const char *s_string =" ++ " " := by decide +kernel
  have split : stringLine value =
      "NAPI void f_c(const char *s_string =" ++ " " ++ (value ++ ");") :=
    congrArg (· ++ (value ++ ");")) lead
  apply String.toList_injective
  rw [toList_stringLineUpTo, split, String.toList_append, String.toList_append,
    List.append_assoc, List.append_cancel_left_eq, String.toList_append]
  rfl

/-- Without its marker, the line is a declaration. -/
theorem readMarker_stringLineUpTo (shown : List Char) :
    readMarker (stringLineUpTo shown) =
      (some .function, stringHeading.text ++ (stringLead ++ .ofList shown)) := by
  have started : Text.trimStart (stringHeading.text ++ (stringLead ++ .ofList shown)) =
      stringHeading.text ++ (stringLead ++ .ofList shown) := by
    apply String.toList_injective
    rw [Text.trimStart, String.toList_ofList, String.toList_append]
    rfl
  rw [stringLineUpTo, readMarker_item, started]
  rfl

theorem directive_stringLine (value : String) :
    Directive.ofLine (stringLine value) = .code := by
  have first : firstField (stringLine value) = "NAPI" := by
    rw [stringLine_eq, stringLineUpTo]
    exact firstField_append (by decide) (by rw [String.toList_append]; rfl)
  have trimmed : Trimmed (stringLine value) := by
    refine Text.trimmed_of_ends ?_ (by decide : isBlank 'N' = false) ?_
      (by decide : isBlank ';' = false)
    · rw [stringLine_eq, toList_stringLineUpTo]
      rfl
    · rw [stringLine_eq, toList_stringLineUpTo]
      rw [← List.cons_append, ← List.append_assoc, List.getLast?_append_of_ne_nil _ (by simp)]
      rfl
  apply Directive.ofLine_code
  rw [trimmed.trim_eq]
  apply startsWith_numberSign_of_bare
  rw [first]
  decide

/-- What is left of the line without its comment. -/
theorem stripLineComment_stringLine (value : String) :
    ∃ shown, stripLineComment (stringLine value) = stringLineUpTo shown ∧
      shown <+: ' ' :: (value.toList ++ [')', ';']) ∧
      (beforeComment? .code value.toList = none →
        shown = ' ' :: (value.toList ++ [')', ';'])) ∧
      (beforeComment? .code value.toList ≠ none → shown.length ≤ value.toList.length + 1) := by
  have lead : beforeComment? .code (stringLine value).toList =
      (beforeComment? .code (' ' :: (value.toList ++ [')', ';']))).map
        ("NAPI void f_c(const char *s_string =".toList ++ ·) := by
    rw [stringLine_eq, toList_stringLineUpTo]
    exact beforeComment?_append (by simp) (by decide) (by simp)
  have behind : beforeComment? .code (' ' :: (value.toList ++ [')', ';'])) = none ↔
      beforeComment? .code value.toList = none := by
    rw [beforeComment?, if_neg (by simp), Option.map_eq_none_iff]
    exact beforeComment?_append_eq_none_iff (by decide)
  rw [stripLineComment, lead]
  cases found : beforeComment? .code (' ' :: (value.toList ++ [')', ';'])) with
  | none =>
      exact ⟨_, stringLine_eq value, List.prefix_rfl, fun _ => rfl,
        fun some => absurd (behind.mp found) some⟩
  | some before =>
      have notBlank : ∀ nonempty, isBlank
          ("NAPI void f_c(const char *s_string =".toList.getLast nonempty) = false := by decide
      have isPrefix := prefix_beforeComment? found
      have shorter := length_beforeComment? found
      have cut := List.rdropWhile_prefix isBlank before
      refine ⟨before.rdropWhile isBlank, ?_, cut.trans isPrefix, ?_, fun _ => ?_⟩
      · apply String.toList_injective
        dsimp only [Option.map_some]
        rw [toList_stringLineUpTo, String.toList_ofList, Text.dropEndWhile_eq_rdropWhile,
          Text.rdropWhile_append_of_last _ notBlank]
      · intro none
        rw [behind.mpr none] at found
        cases found
      · have cutShorter := cut.length_le
        simp only [List.length_cons, List.length_append, List.length_nil] at shorter
        omega

/-! ## Scanning -/

/-- No comment seems to start in a text, and its brackets and commas have no part in a list. -/
@[mk_iff]
structure IsOpaque (value : String) : Prop where
  noComment : beforeComment? .code value.toList = none
  listable : Listable value.toList

instance (value : String) : Decidable (IsOpaque value) :=
  decidable_of_iff' _ (isOpaque_iff value)

/-- Wherever the line stands in a class, it declares one function, with the default as it is
written. -/
def ReadAsWritten (value : String) : Prop :=
  ∀ (options : Options) (header : String) (above below : List String) (conditions : Conditions)
    (owner : Class),
    conditions.isLive = true → options.replacements.lookup value = none →
      scanLines options header above conditions (some owner) (stringLine value :: below) =
        (scanLines options header (stringLine value :: above) conditions
          (some { owner with
            functions := owner.functions ++
              [LineContext.documented (stringFunction owner value)
                (docsAbove (above.length + 1) above).1] }) below).after
          ((docsAbove (above.length + 1) above).2.map Finding.notice)

theorem read_function (context : LineContext) {rest : String}
    (marked : readMarker context.line = (some .function, rest)) (owner : Class) :
    context.read (some owner) = (context.addFunction owner).map fun extended =>
      (context.docs.2.map Finding.notice, some extended) := by
  unfold LineContext.read
  rw [marked]

/-- Scanning goes on with the class that the line extends. -/
theorem scanLines_stringLine
    (options : Options) (header : String) (above below : List String) {conditions : Conditions}
    (owner : Class) (live : conditions.isLive = true) :
    scanLines options header above conditions (some owner) (stringLine value :: below) =
      match LineContext.addFunction
          ⟨options, header, above.length + 1, above, stringLine value, below⟩ owner with
      | .error failure => { findings := [], failure := some failure }
      | .ok extended =>
        (scanLines options header (stringLine value :: above) conditions (some extended)
          below).after ((docsAbove (above.length + 1) above).2.map Finding.notice) := by
  have admitted : conditions.admits .code = true := live
  have marked : readMarker (stringLine value) = (some .function,
      stringHeading.text ++ (stringLead ++ .ofList (' ' :: (value.toList ++ [')', ';'])))) := by
    rw [stringLine_eq, readMarker_stringLineUpTo]
  rw [scanLines, directive_stringLine, if_pos admitted]
  dsimp only
  rw [read_function ⟨options, header, above.length + 1, above, stringLine value, below⟩ marked
    owner]
  generalize LineContext.addFunction _ owner = added
  cases added with
  | error failure => rfl
  | ok extended => rfl

theorem joinUntil?_first (done : String → Bool) (line : String) (below : List String) :
    joinUntil? done "" (line :: below) =
      if done (stripLineComment line) then some (stripLineComment line)
      else joinUntil? done (stripLineComment line) below := by
  have start : (if "".isEmpty then "" else "" ++ " ") ++ stripLineComment line =
      stripLineComment line := String.empty_append
  rw [joinUntil?, start]

/-- A declaration that is read ends on the line. -/
theorem argumentsClosed_stringLineUpTo
    {owner : Class} {replacements : List (String × String)} {shown : List Char} {f : Function}
    (read : parseFunction owner replacements
      (stringHeading.text ++ (stringLead ++ .ofList shown)) = .ok f) :
    argumentsClosed (stringLineUpTo shown) = true := by
  rcases (stringHeading_wellFormed owner).parseFunction_eq_ok_iff.mp read with
    ⟨list, after, -, -, -, closed, -⟩
  have lead : "NAPI void f_c(const char *s_string =".toList =
      "NAPI void f_c".toList ++ '(' :: stringLead.toList := by decide
  have split : (stringLineUpTo shown).toList =
      "NAPI void f_c".toList ++ '(' :: (stringLead ++ .ofList shown).toList := by
    have inside : (stringLead ++ .ofList shown).toList = stringLead.toList ++ shown := by
      rw [String.toList_append, String.toList_ofList]
    rw [toList_stringLineUpTo, lead, inside, List.append_assoc]
    rfl
  have noParen : '(' ∉ "NAPI void f_c".toList := by decide
  exact argumentsClosed_iff.mpr ⟨_, _, list, after, split, noParen, closed⟩

theorem readAsWritten_of_isOpaque
    (trimmed : Trimmed value) (nonempty : value.toList ≠ []) (isOpaque : IsOpaque value) :
    ReadAsWritten value := by
  intro options header above below conditions owner live noReplacement
  rcases stripLineComment_stringLine value with ⟨shown, stripped, -, whole, -⟩
  have read : parseFunction owner options.replacements
      (stringHeading.text ++ (stringLead ++ .ofList shown)) = .ok (stringFunction owner value) := by
    rw [whole isOpaque.noComment]
    exact parseFunction_string_of_listable trimmed nonempty isOpaque.listable noReplacement [';']
  have declaration : LineContext.declaration?
      ⟨options, header, above.length + 1, above, stringLine value, below⟩ argumentsClosed =
        some (stringHeading.text ++ (stringLead ++ .ofList shown)) := by
    rw [LineContext.declaration?, joinUntil?_first, stripped,
      if_pos (argumentsClosed_stringLineUpTo read), Option.map_some, readMarker_stringLineUpTo]
  rw [scanLines_stringLine options header above below owner live, LineContext.addFunction,
    declaration]
  dsimp only
  rw [read]
  rfl

/-- At the end of a header there is nothing but the line itself to read the declaration from. -/
theorem exists_declaration_of_readAsWritten (readAsWritten : ReadAsWritten value) :
    ∃ owner declaration,
      LineContext.declaration? ⟨{}, "", ([] : List String).length + 1, [], stringLine value, []⟩
        argumentsClosed = some declaration ∧
      parseFunction owner [] declaration = .ok (stringFunction owner value) := by
  obtain ⟨owner, isOwner⟩ : ∃ owner : Class, owner = { name := "A", kind := .singleton } :=
    ⟨_, rfl⟩
  have same := readAsWritten {} "" [] [] (Conditions.ofDefinitions []) owner rfl rfl
  rw [scanLines_stringLine {} "" [] [] owner rfl] at same
  cases added : LineContext.addFunction
      ⟨{}, "", ([] : List String).length + 1, [], stringLine value, []⟩ owner with
  | error failure =>
      rw [added] at same
      exact absurd (congrArg Scan.failure same) (by simp [Scan.after, scanLines])
  | ok extended =>
      rw [added] at same
      have complete : extended = { owner with
          functions := owner.functions ++ [stringFunction owner value] } := by
        have findings := congrArg Scan.findings same
        simpa [Scan.after, scanLines, docsAbove, LineContext.documented] using findings
      rw [LineContext.addFunction] at added
      split at added
      · cases added
      · rename_i declaration declared
        split at added
        · cases added
        · rename_i f read
          have isFunction : f = stringFunction owner value := by
            rw [← Except.ok.inj added] at complete
            have functions := congrArg Class.functions complete
            simpa [LineContext.documented, LineContext.docs, docsAbove] using functions
          exact ⟨owner, declaration, declared, isFunction ▸ read⟩

theorem isOpaque_of_readAsWritten (nonempty : value.toList ≠ [])
    (readAsWritten : ReadAsWritten value) : IsOpaque value := by
  rcases exists_declaration_of_readAsWritten readAsWritten with
    ⟨owner, declaration, declared, read⟩
  rcases stripLineComment_stringLine value with ⟨shown, stripped, starts, -, cut⟩
  have isDeclaration : declaration = stringHeading.text ++ (stringLead ++ .ofList shown) := by
    rw [LineContext.declaration?, joinUntil?_first, stripped, joinUntil?] at declared
    split at declared
    · rw [Option.map_some, readMarker_stringLineUpTo] at declared
      exact (Option.some.inj declared).symm
    · cases declared
  rw [isDeclaration] at read
  rcases listable_of_parseFunction_string nonempty starts read with ⟨listable, whole⟩
  refine ⟨?_, listable⟩
  by_contra comment
  have shorter := cut comment
  omega

namespace StringLiteral

/-- An ordinary literal has to be opaque to the argument list alone. -/
theorem isOpaque_ordinary_iff
    {encoding : String} (isEncoding : encoding ∈ encodings) (parts : List LiteralPart) :
    IsOpaque (ordinary encoding isEncoding parts).text ↔
      Listable (ordinary encoding isEncoding parts).text.toList := by
  rw [isOpaque_iff, beforeComment?_ordinary isEncoding parts]
  simp

/-- An ordinary literal without brackets and commas is opaque. -/
theorem isOpaque_of_plain
    {encoding : String} (isEncoding : encoding ∈ encodings) {parts : List LiteralPart}
    (plain : ∀ part ∈ parts, ∀ c ∈ part.chars, delimits c = false) :
    IsOpaque (ordinary encoding isEncoding parts).text := by
  rw [isOpaque_ordinary_iff]
  apply listable_plain
  intro c member
  rw [toList_text, List.mem_append, List.mem_append] at member
  rcases member with inEncoding | inInner | isQuote
  · have isWordChar := isWord_of_mem_encoding (ordinary encoding isEncoding parts) c inEncoding
    rw [Bool.eq_false_iff]
    intro delimiter
    rw [isWord_of_delimits delimiter] at isWordChar
    cases isWordChar
  · rcases List.mem_cons.mp inInner with rfl | inParts
    · rfl
    · rcases List.mem_flatMap.mp inParts with ⟨part, isPart, inPart⟩
      exact plain part isPart c inPart
  · rw [List.mem_singleton.mp isQuote]
    rfl

/--
A declaration with a string literal as its default is read as it is written exactly if no comment
seems to start in the literal, and if its brackets and commas have no part in the argument list.
-/
theorem readAsWritten_iff_isOpaque (literal : StringLiteral) :
    ReadAsWritten literal.text ↔ IsOpaque literal.text :=
  ⟨isOpaque_of_readAsWritten literal.text_nonempty,
    readAsWritten_of_isOpaque literal.text_trimmed literal.text_nonempty⟩

/-- The literal `")"`, a parenthesis in quotes. -/
def closingParen : StringLiteral :=
  ordinary "" (by decide) [.plain ')' (by decide)]

/-- The argument list ends at a parenthesis inside its default. -/
theorem literals_not_always_opaque :
    ¬ ∀ literal : StringLiteral, ReadAsWritten literal.text := by
  intro always
  have read : scanLines {} "a.h" [] (Conditions.ofDefinitions [])
      (some { name := "A", kind := .singleton }) [stringLine closingParen.text] =
        { findings := [.complete {
            name := "A"
            kind := .singleton
            functions := [stringFunction { name := "A", kind := .singleton } "\""] }]
          failure := none } := by decide +kernel
  have asWritten := always closingParen {} "a.h" [] [] (Conditions.ofDefinitions [])
    { name := "A", kind := .singleton } rfl rfl
  exact absurd (read.symm.trans asWritten) (by decide +kernel)

end StringLiteral

end HeaderBindings.Header
