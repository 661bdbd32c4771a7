import HeaderBindings.Proofs.Header.BlockComment
import HeaderBindings.Proofs.Header.EnumNumbering
import HeaderBindings.Proofs.Header.Prototype

/-!
# The text of an enum declaration

An enum is read after its comments have been removed.  Wherever comments and
blanks stand between its parts, what is read are its name, the type under it
and its constants, with the values that C gives to them.
-/

namespace HeaderBindings.Header

open Text (isBlank isWord Trimmed)

/-! ## Items -/

/-- Blanks. -/
structure Gap where
  chars : List Char
  blank : ∀ c ∈ chars, isBlank c = true

def Gap.none : Gap :=
  ⟨[], by simp⟩

/-- A constant of an enum with the blanks around its parts. -/
structure SpacedConstant extends DeclaredConstant where
  before : Gap := .none
  beforeSign : Gap := .none
  afterSign : Gap := .none
  after : Gap := .none
  named : isName name = true
  nonempty : ∀ text ∈ value, text ≠ ""
  trimmed : ∀ text ∈ value, Text.trim text = text
  noComma : ∀ text ∈ value, ',' ∉ text.toList
  noComment : ∀ text ∈ value, ¬ ['/', '*'] <:+: text.toList

/-- Blanks around a trimmed text do not belong to it. -/
theorem Gap.trim_between {text : String} (trimmed : Trimmed text) (before after : Gap) :
    Text.trim (.ofList (before.chars ++ (text.toList ++ after.chars))) = text := by
  rw [Text.trim_around text.toList before.blank after.blank, String.ofList_toList, trimmed.trim_eq]

theorem Gap.not_mem {gap : Gap} {c : Char} (notBlank : isBlank c = false) : c ∉ gap.chars := by
  intro member
  rw [gap.blank c member] at notBlank
  cases notBlank

namespace SpacedConstant

variable (constant : SpacedConstant)

/-- The value with its equals sign. -/
def valueChars : List Char :=
  match constant.value with
  | some text => constant.beforeSign.chars ++ '=' :: (constant.afterSign.chars ++ text.toList)
  | none => []

/-- The item without the blanks around it. -/
def item : String :=
  .ofList (constant.name.toList ++ constant.valueChars)

def chars : List Char :=
  constant.before.chars ++ (constant.name.toList ++ constant.valueChars ++ constant.after.chars)

variable {constant}

theorem item_nonempty : constant.item.toList ≠ [] := by
  rw [item, String.toList_ofList]
  exact List.append_ne_nil_of_left_ne_nil (nonempty_of_isName constant.named) _

theorem isTrimmed_value {text : String} (isText : constant.value = some text) : Trimmed text :=
  constant.trimmed text isText ▸ Text.trimmed_trim text

theorem value_nonempty {text : String} (isText : constant.value = some text) : text.toList ≠ [] :=
  fun empty => constant.nonempty text isText (String.toList_eq_nil_iff.mp empty)

theorem item_trimmed : Trimmed constant.item := by
  have name := trimmed_of_isName constant.named
  have nameNonempty := nonempty_of_isName constant.named
  rw [item, valueChars]
  cases isText : constant.value with
  | none =>
      rw [List.append_nil, String.ofList_toList]
      exact name
  | some text =>
      have around := name.around nameNonempty (isTrimmed_value isText) (value_nonempty isText)
        (.ofList (constant.beforeSign.chars ++ '=' :: constant.afterSign.chars))
      have split : constant.name ++ (String.ofList
          (constant.beforeSign.chars ++ '=' :: constant.afterSign.chars) ++ text) =
            .ofList (constant.name.toList ++
              (constant.beforeSign.chars ++ '=' :: (constant.afterSign.chars ++ text.toList))) := by
        apply String.toList_injective
        simp
      rw [split] at around
      exact around

/-- The item is cut at its first equals sign, which stands behind the name. -/
theorem splitFirst?_item :
    Text.splitFirst? constant.item "=" = constant.value.map fun text =>
      (.ofList (constant.name.toList ++ constant.beforeSign.chars),
        .ofList (constant.afterSign.chars ++ text.toList)) := by
  have notInName : '=' ∉ constant.name.toList := not_mem_of_isName constant.named (by decide)
  have sign : "=".toList = ['='] := rfl
  rw [Text.splitFirst?, sign, item, String.toList_ofList, valueChars]
  cases constant.value with
  | none =>
      have uncut : Text.cut? ['='] constant.name.toList = none := by
        rw [← Option.not_isSome_iff_eq_none, Text.isSome_cut?_iff]
        exact fun inside => notInName ((List.singleton_infix_iff _ _).mp inside)
      rw [List.append_nil, uncut]
      rfl
  | some text =>
      have isCut : Text.cut? ['='] (constant.name.toList ++
          (constant.beforeSign.chars ++ '=' :: (constant.afterSign.chars ++ text.toList))) =
            some (constant.name.toList ++ constant.beforeSign.chars,
              constant.afterSign.chars ++ text.toList) := by
        refine Text.cut?_singleton_iff.mpr ⟨by simp, ?_⟩
        rw [List.mem_append]
        exact fun member => member.elim notInName (Gap.not_mem (by decide))
      rw [isCut]
      rfl

theorem isItem : IsItem constant.item constant.toDeclaredConstant := by
  intro last rest
  rw [readConstants, splitFirst?_item, DeclaredConstant.read, DeclaredConstant.counted]
  cases isText : constant.value with
  | none =>
      have alone : constant.item = constant.name := by
        rw [item, valueChars, isText, List.append_nil, String.ofList_toList]
      rw [alone]
      rfl
  | some text =>
      have nameRead := Gap.trim_between (trimmed_of_isName constant.named) .none constant.beforeSign
      have valueRead := Gap.trim_between (isTrimmed_value isText) constant.afterSign .none
      rw [Gap.none, List.nil_append] at nameRead
      rw [Gap.none, List.append_nil] at valueRead
      dsimp only [Option.map_some]
      rw [nameRead, valueRead]
      rfl

theorem comma_not_mem_chars : ',' ∉ constant.chars := by
  have notInGap (gap : Gap) : ',' ∉ gap.chars := Gap.not_mem (by decide)
  have notInValue : ',' ∉ constant.valueChars := by
    rw [valueChars]
    cases isText : constant.value with
    | none => simp
    | some text => simp [notInGap, constant.noComma text isText]
  have notInName : ',' ∉ constant.name.toList := not_mem_of_isName constant.named (by decide)
  simp [chars, notInGap, notInValue, notInName]

/-- Trimming leaves the item. -/
theorem trim_chars : Text.trim (.ofList constant.chars) = constant.item := by
  have around := Text.trim_around (constant.name.toList ++ constant.valueChars)
    constant.before.blank constant.after.blank
  rw [chars, around]
  exact item_trimmed.trim_eq

end SpacedConstant

theorem Gap.solid (gap : Gap) : Solid gap.chars :=
  solid_plain (not_mem (by decide)) (not_mem (by decide))

theorem solid_of_isName {name : String} (named : isName name = true) : Solid name.toList :=
  solid_plain (not_mem_of_isName named (by decide)) (not_mem_of_isName named (by decide))

theorem SpacedConstant.solid (constant : SpacedConstant) : Solid constant.chars := by
  have solidValue : Solid constant.valueChars := by
    rw [valueChars]
    cases isText : constant.value with
    | none => exact solid_plain (by simp) (by simp)
    | some text =>
        have noSlash : '/' ∉ '=' :: constant.afterSign.chars :=
          List.not_mem_cons_of_ne_of_not_mem (by decide) (Gap.not_mem (by decide))
        have written : Unstarted (('=' :: constant.afterSign.chars) ++ text.toList) :=
          (unstarted_plain noSlash).append (unstarted_iff.mpr (constant.noComment text isText))
            (.inl fun last => noSlash (List.mem_of_getLast? last))
        exact constant.beforeSign.solid.append ⟨written, by simp⟩
  exact constant.before.solid.append
    (((solid_of_isName constant.named).append solidValue).append constant.after.solid)

/-! ## Enums -/

/-- An enum declaration with the blanks between its parts. -/
structure EnumText where
  lead : Gap := .none
  afterKeyword : Gap := .none
  /-- The blanks behind `class` and a space, if the enum is a scoped one. -/
  afterClass : Option Gap := Option.none
  name : String
  beforeColon : Gap := .none
  afterColon : Gap := .none
  underlying : String
  beforeBrace : Gap := .none
  constants : List SpacedConstant
  /-- The blanks behind the last comma, if there is one; without constants, what stands between the
  braces. -/
  trailing : Option Gap := Option.none
  /-- What stands behind the closing brace. -/
  after : List Char := []
  named : isName name = true
  notKeyword : name ≠ "class"
  supported : underlying ∈ underlyingTypes
  afterPlain : '\x7d' ∉ after ∧ ¬ ['/', '*'] <:+: after

namespace EnumText

variable (declaration : EnumText)

/-- The texts between the commas. -/
def pieces : List (List Char) :=
  declaration.constants.map SpacedConstant.chars ++ declaration.trailing.toList.map Gap.chars

def body : List Char :=
  [','].intercalate declaration.pieces

/-- The blanks in front of the name. -/
def beforeName : Gap :=
  declaration.afterClass.getD .none

def classChars : List Char :=
  if declaration.afterClass.isSome then "class ".toList else []

/-- The name and the type under the enum. -/
def head : List Char :=
  declaration.beforeName.chars ++ (declaration.name.toList ++ declaration.beforeColon.chars) ++
    ':' :: (declaration.afterColon.chars ++
      (declaration.underlying.toList ++ declaration.beforeBrace.chars))

/-- The braces with what stands between them, and what is in front of them. -/
def rest : List Char :=
  declaration.head ++ '\x7b' :: (declaration.body ++ ['\x7d'])

def code : List Char :=
  declaration.lead.chars ++ ("enum ".toList ++ (declaration.afterKeyword.chars ++
    (declaration.classChars ++ declaration.rest)) ++ declaration.after)

variable {declaration}

theorem isName_underlying (declaration : EnumText) : isName declaration.underlying = true := by
  have each : ∀ underlying ∈ underlyingTypes, isName underlying = true := by decide
  exact each _ declaration.supported

/-- The items are the constants; what stands behind the last comma is no item. -/
theorem enumItems_body :
    enumItems declaration.body = declaration.constants.map SpacedConstant.item := by
  by_cases none : declaration.pieces = []
  · have noConstants : declaration.constants = [] := by
      rw [pieces, List.append_eq_nil_iff, List.map_eq_nil_iff] at none
      exact none.1
    rw [body, none, noConstants]
    rfl
  · have noComma : ∀ piece ∈ declaration.pieces, ',' ∉ piece := by
      rw [pieces, List.forall_mem_append, List.forall_mem_map, List.forall_mem_map]
      exact ⟨fun _ _ => SpacedConstant.comma_not_mem_chars, fun _ _ => Gap.not_mem (by decide)⟩
    have items :
        ((declaration.constants.map SpacedConstant.chars).map String.ofList).map Text.trim =
          declaration.constants.map SpacedConstant.item := by
      rw [List.map_map, List.map_map]
      exact List.map_congr_left fun constant _ => SpacedConstant.trim_chars
    have blank : ((declaration.trailing.toList.map Gap.chars).map String.ofList).map Text.trim =
        declaration.trailing.toList.map fun _ => "" := by
      rw [List.map_map, List.map_map]
      exact List.map_congr_left fun gap _ =>
        Text.trim_eq_empty_of_blank (List.all_eq_true.mpr gap.blank)
    rw [enumItems, body, List.splitOn_intercalate ',' noComma none, pieces, List.map_append,
      List.map_append, items, blank, List.filter_append, List.filter_eq_self.mpr,
      List.filter_eq_nil_iff.mpr, List.append_nil]
    · simp
    · intro item isItem
      rcases List.mem_map.mp isItem with ⟨constant, _, rfl⟩
      have nonempty : constant.item ≠ "" := fun empty =>
        SpacedConstant.item_nonempty (String.toList_eq_nil_iff.mpr empty)
      simp [nonempty]

variable (declaration) in
/-- The constants without the blanks around their parts. -/
def declared : List DeclaredConstant :=
  declaration.constants.map SpacedConstant.toDeclaredConstant

variable (declaration) in
/-- What the declaration says. -/
def enumType : EnumType where
  name := declaration.name
  underlying := declaration.underlying
  constants := declaration.declared.mapIdx fun i constant =>
    constant.read (countAfter (-1) (declaration.declared.take i))

theorem readConstants_body :
    readConstants (-1) (enumItems declaration.body) = declaration.enumType.constants := by
  rw [enumItems_body]
  apply readConstants_items
  rw [declared, List.forall₂_map_left_iff, List.forall₂_map_right_iff, List.forall₂_same]
  exact fun constant _ => SpacedConstant.isItem

variable (declaration) in
theorem getLast?_rest (front : List Char) : (front ++ declaration.rest).getLast? = some '\x7d' := by
  have split : front ++ declaration.rest =
      front ++ declaration.head ++ '\x7b' :: declaration.body ++ ['\x7d'] := by
    simp [rest]
  rw [split, List.getLast?_concat]

/-- Trimming keeps the text from the keyword to the closing brace. -/
theorem trim_code :
    ∃ after, '\x7d' ∉ after ∧
      Text.trim (.ofList declaration.code) =
        "enum " ++ .ofList (declaration.afterKeyword.chars ++
          (declaration.classChars ++ (declaration.rest ++ after))) := by
  obtain ⟨shown, isShown⟩ : ∃ shown, shown = "enum " ++ .ofList (declaration.afterKeyword.chars ++
      (declaration.classChars ++ declaration.rest)) := ⟨_, rfl⟩
  have chars : shown.toList = "enum ".toList ++ declaration.afterKeyword.chars ++
      declaration.classChars ++ declaration.rest := by
    simp [isShown]
  have trimmed : Trimmed shown := by
    refine Text.trimmed_of_ends ?_ (by decide : isBlank 'e' = false) ?_
      (by decide : isBlank '\x7d' = false)
    · rw [chars]
      rfl
    · rw [chars, declaration.getLast?_rest]
  have nonempty : shown.toList ≠ [] := by
    rw [chars]
    simp
  have split : String.ofList declaration.code =
      .ofList declaration.lead.chars ++ (shown ++ .ofList declaration.after) := by
    apply String.toList_injective
    simp [code, isShown]
  refine ⟨declaration.after.rdropWhile isBlank, ?_, ?_⟩
  · intro brace
    exact declaration.afterPlain.1 ((List.rdropWhile_prefix isBlank _).subset brace)
  · rw [split, Text.trim_indented _ (by simpa using declaration.lead.blank) trimmed nonempty,
      Text.trimEnd, String.toList_ofList, Text.dropEndWhile_eq_rdropWhile, isShown,
      String.append_assoc, ← String.ofList_append]
    simp only [List.append_assoc]

theorem dropWhile_afterKeyword {text : List Char} {c : Char} (starts : text.head? = some c)
    (notBlank : isBlank c = false) :
    (declaration.afterKeyword.chars ++ text).dropWhile isBlank = text := by
  rw [List.dropWhile_append_of_pos declaration.afterKeyword.blank]
  cases text with
  | nil => rfl
  | cons d text =>
      obtain rfl : d = c := Option.some.inj starts
      rw [List.dropWhile_cons_of_neg (by simp [notBlank])]

theorem takeWhile_isWord {run more : List Char} (isRun : ∀ c ∈ run, isWord c = true)
    (apart : more.head?.any isWord = false) : (run ++ more).takeWhile isWord = run := by
  rw [List.takeWhile_append_of_pos isRun]
  cases more with
  | nil => simp
  | cons c more =>
      have notWord : isWord c = false := apart
      simp [notWord]

theorem rest_of_unscoped (unscoped : declaration.afterClass = none) (after : List Char) :
    ∃ more, declaration.rest ++ after = declaration.name.toList ++ more ∧
      more.head?.any isWord = false := by
  refine ⟨declaration.beforeColon.chars ++ ':' :: (declaration.afterColon.chars ++
    (declaration.underlying.toList ++ declaration.beforeBrace.chars)) ++
      '\x7b' :: (declaration.body ++ ['\x7d']) ++ after, ?_, ?_⟩
  · simp [rest, head, beforeName, unscoped, Gap.none]
  · cases blanks : declaration.beforeColon.chars with
    | nil => rfl
    | cons c others =>
        exact Text.isWord_of_isBlank (declaration.beforeColon.blank c (by simp [blanks]))

/-- The keywords in front of the name are passed over. -/
theorem dropHead_class (after : List Char) :
    Text.dropHead (Text.trimStart (.ofList (declaration.afterKeyword.chars ++
        (declaration.classChars ++ (declaration.rest ++ after))))) "class " =
      .ofList (declaration.rest ++ after) := by
  rw [Text.trimStart, String.toList_ofList, classChars]
  cases isClass : declaration.afterClass with
  | some gap =>
      have found : Text.dropHead? (.ofList ("class ".toList ++ (declaration.rest ++ after)))
          "class " = some (.ofList (declaration.rest ++ after)) := by
        rw [Text.dropHead?_eq_some_iff, String.ofList_append, String.ofList_toList]
      rw [Option.isSome_some, if_pos rfl, dropWhile_afterKeyword (c := 'c') rfl (by decide),
        Text.dropHead, found]
      rfl
  | none =>
      have nonempty := nonempty_of_isName declaration.named
      rcases rest_of_unscoped isClass after with ⟨more, split, apart⟩
      have starts : (declaration.rest ++ after).head? =
          some (declaration.name.toList.head nonempty) := by
        rw [split, List.head?_append_of_ne_nil _ nonempty, List.head?_eq_some_head nonempty]
      have absent : Text.dropHead? (.ofList (declaration.rest ++ after)) "class " = none := by
        rw [Option.eq_none_iff_forall_ne_some]
        intro later found
        -- the name would be the keyword, as both are whole words
        have same := congrArg (fun text : String => text.toList.takeWhile isWord)
          (Text.dropHead?_eq_some_iff.mp found)
        rw [String.toList_ofList, split,
          takeWhile_isWord (isWord_of_isName declaration.named) apart, String.toList_append] at same
        exact declaration.notKeyword (String.toList_injective same)
      rw [Option.isSome_none, if_neg Bool.false_ne_true, List.nil_append,
        dropWhile_afterKeyword starts ((trimmed_of_isName declaration.named).start nonempty),
        Text.dropHead, absent]
      rfl

theorem cut_rest (after : List Char) :
    Text.cut? ['\x7b'] (declaration.rest ++ after) =
      some (declaration.head, declaration.body ++ '\x7d' :: after) := by
  have notInGap (gap : Gap) : '\x7b' ∉ gap.chars := Gap.not_mem (by decide)
  refine Text.cut?_singleton_iff.mpr ⟨by simp [rest], ?_⟩
  simp [head, notInGap, not_mem_of_isName declaration.named (by decide : isWord '\x7b' = false),
    not_mem_of_isName declaration.isName_underlying (by decide : isWord '\x7b' = false)]

theorem cutLast_rest {after : List Char} (noBrace : '\x7d' ∉ after) :
    Text.cutLast? ['\x7d'] (declaration.rest ++ after) =
      some (declaration.head ++ '\x7b' :: declaration.body, after) := by
  have split : (declaration.rest ++ after).reverse =
      after.reverse ++ '\x7d' :: (declaration.head ++ '\x7b' :: declaration.body).reverse := by
    simp [rest]
  have found : Text.cut? ['\x7d'] (declaration.rest ++ after).reverse =
      some (after.reverse, (declaration.head ++ '\x7b' :: declaration.body).reverse) :=
    Text.cut?_singleton_iff.mpr ⟨split, by simpa using noBrace⟩
  rw [Text.cutLast?, List.reverse_singleton, found, Option.map_some, List.reverse_reverse,
    List.reverse_reverse]

theorem cut_head :
    Text.cut? [':'] declaration.head =
      some
        (declaration.beforeName.chars ++
          (declaration.name.toList ++ declaration.beforeColon.chars),
        declaration.afterColon.chars ++
          (declaration.underlying.toList ++ declaration.beforeBrace.chars)) := by
  have notInGap (gap : Gap) : ':' ∉ gap.chars := Gap.not_mem (by decide)
  refine Text.cut?_singleton_iff.mpr ⟨rfl, ?_⟩
  simp [notInGap, not_mem_of_isName declaration.named (by decide : isWord ':' = false)]

theorem parseEnum_code {text : String}
    (code : dropBlockComments text = .ofList declaration.code) :
    parseEnum text = .ok declaration.enumType := by
  rcases declaration.trim_code with ⟨after, noBrace, trimmed⟩
  have started : Text.dropHead? (Text.trim (.ofList declaration.code)) "enum " =
      some (.ofList (declaration.afterKeyword.chars ++
        (declaration.classChars ++ (declaration.rest ++ after)))) :=
    Text.dropHead?_eq_some_iff.mpr trimmed
  have ordered : ¬ (declaration.head ++ '\x7b' :: declaration.body).length <
      declaration.head.length := by
    simp
  have between : (declaration.body ++ '\x7d' :: after).take
      ((declaration.head ++ '\x7b' :: declaration.body).length - declaration.head.length - 1) =
        declaration.body := by
    have length : (declaration.head ++ '\x7b' :: declaration.body).length -
        declaration.head.length - 1 = declaration.body.length := by
      simp
    rw [length, List.take_left']
    rfl
  have supported : underlyingTypes.contains declaration.underlying = true :=
    List.contains_iff_mem.mpr declaration.supported
  have nameRead := Gap.trim_between (trimmed_of_isName declaration.named) declaration.beforeName
    declaration.beforeColon
  have underlyingRead : Text.trim (.ofList (declaration.afterColon.chars ++
      (declaration.underlying.toList ++ declaration.beforeBrace.chars))) = declaration.underlying :=
    Gap.trim_between (trimmed_of_isName declaration.isName_underlying) _ _
  unfold parseEnum
  dsimp only
  rw [code, started]
  dsimp only
  rw [dropHead_class, String.toList_ofList, cut_rest, cutLast_rest noBrace]
  dsimp only
  rw [if_neg ordered, cut_head]
  dsimp only
  rw [nameRead, underlyingRead, if_pos supported, between, readConstants_body]
  rfl

/-- No comment starts in the code of the declaration. -/
theorem unstarted_code : Unstarted declaration.code := by
  have word {name : String} (named : isName name = true) := solid_of_isName named
  have colon : Solid [':'] := solid_plain (by decide) (by decide)
  have opening : Solid ['\x7b'] := solid_plain (by decide) (by decide)
  have closing : Solid ['\x7d'] := solid_plain (by decide) (by decide)
  have comma : Solid [','] := solid_plain (by decide) (by decide)
  have keyword : Solid "enum ".toList := solid_plain (by decide) (by decide)
  have classKeyword : Solid declaration.classChars := by
    rw [classChars]
    split
    · exact solid_plain (by decide) (by decide)
    · exact solid_plain (by simp) (by simp)
  have solidHead : Solid declaration.head :=
    (declaration.beforeName.solid.append
      ((word declaration.named).append declaration.beforeColon.solid)).append
        (colon.append (declaration.afterColon.solid.append
          ((word declaration.isName_underlying).append declaration.beforeBrace.solid)))
  have solidBody : Solid declaration.body := by
    apply Solid.intercalate comma
    rw [pieces, List.forall_mem_append, List.forall_mem_map, List.forall_mem_map]
    exact ⟨fun constant _ => constant.solid, fun gap _ => gap.solid⟩
  have solidRest : Solid declaration.rest :=
    solidHead.append (opening.append (solidBody.append closing))
  have front := declaration.lead.solid.append (keyword.append
    (declaration.afterKeyword.solid.append (classKeyword.append solidRest)))
  have split : declaration.code = (declaration.lead.chars ++ ("enum ".toList ++
      (declaration.afterKeyword.chars ++ (declaration.classChars ++ declaration.rest)))) ++
        declaration.after := by
    simp [code]
  have last : (declaration.lead.chars ++ ("enum ".toList ++
      (declaration.afterKeyword.chars ++ (declaration.classChars ++ declaration.rest)))).getLast? ≠
        some '/' := by
    have ends := declaration.getLast?_rest (declaration.lead.chars ++ "enum ".toList ++
      declaration.afterKeyword.chars ++ declaration.classChars)
    simp only [List.append_assoc] at ends
    rw [ends]
    decide
  rw [split]
  exact front.unstarted.append (unstarted_iff.mpr declaration.afterPlain.2) (.inl last)

end EnumText

/-- The constants that are read are those that are declared, in order and with their values. -/
structure Numbered (declared : List DeclaredConstant) (constants : List EnumConstant) : Prop where
  names : constants.map EnumConstant.name = declared.map DeclaredConstant.name
  values : ∀ i constant, declared[i]? = some constant →
    ∃ value, constants[i]? = some ⟨constant.name, value⟩ ∧
      HasValue (declared.take i) constant value

theorem EnumText.numbered (declaration : EnumText) :
    Numbered declaration.declared declaration.enumType.constants where
  names := by
    apply List.ext_getElem?
    intro i
    simp only [enumType, List.getElem?_map, List.getElem?_mapIdx, Option.map_map]
    rfl
  values := by
    intro i constant isConstant
    refine ⟨_, ?_, hasValue_read (declaration.declared.take i) constant⟩
    rw [enumType, List.getElem?_mapIdx, isConstant]
    rfl

/--
An enum is read from its text whatever comments and blanks stand between its parts.  A constant with
a value keeps it as it is written, and another one has the next number of the count, which restarts
at the values that are integer literals.
-/
theorem parseEnum_text (declaration : EnumText) {chunks : List Chunk}
    (shown : chunks.flatMap Chunk.shown = declaration.code) :
    ∃ constants, parseEnum (.ofList (chunks.flatMap Chunk.text)) =
        .ok { name := declaration.name, underlying := declaration.underlying, constants } ∧
      Numbered declaration.declared constants := by
  have uncommented : dropBlockComments (.ofList (chunks.flatMap Chunk.text)) =
      .ofList declaration.code := by
    rw [dropBlockComments, String.toList_ofList, dropBlockCommentsFrom_chunks, shown]
    rw [shown]
    exact unstarted_iff.mp declaration.unstarted_code
  exact ⟨_, declaration.parseEnum_code uncommented, declaration.numbered⟩

def space : Gap :=
  ⟨[' '], List.forall_mem_singleton.mpr (by decide)⟩

/-- A constant with a value, written with spaces. -/
def spacedValue (name text : String) (named : isName name = true := by decide)
    (nonempty : text ≠ "" := by decide) (trimmed : Text.trim text = text := by decide)
    (noComma : ',' ∉ text.toList := by decide)
    (noComment : ¬ ['/', '*'] <:+: text.toList := by decide) : SpacedConstant where
  name := name
  value := some text
  before := space
  beforeSign := space
  afterSign := space
  named := named
  nonempty := by simpa using nonempty
  trimmed := by simpa using trimmed
  noComma := by simpa using noComma
  noComment := by simpa using noComment

/-- A constant without a value. -/
def spacedName (name : String) (named : isName name = true := by decide) : SpacedConstant where
  name := name
  before := space
  named := named
  nonempty := by simp
  trimmed := by simp
  noComma := by simp
  noComment := by simp

/-- Literals in both bases, an expression, and a literal that is too large to count. -/
def mixedEnum : EnumText where
  name := "Mode"
  underlying := "int64_t"
  afterClass := some space
  afterColon := space
  constants := [
    spacedName "A", spacedValue "B" "-2", spacedName "C", spacedValue "D" "1 << 4", spacedName "E",
    spacedValue "F" "0x1FuL", spacedValue "G" "0x80000000000000000000000000000000", spacedName "H"]
  trailing := some space
  after := [';']
  named := by decide
  notKeyword := by decide
  supported := by decide
  afterPlain := by decide

/-- The declaration with a comment in front of the name and one behind the first constant. -/
def mixedChunks : List Chunk :=
  (mixedEnum.code.take 12).map .code ++
    .comment " \x7b A = 7, class ".toList (by decide) ::
      ((mixedEnum.code.drop 12).take 16).map .code ++
        .comment [' ', '/'] (by decide) :: (mixedEnum.code.drop 28).map .code

theorem mixedEnum_read :
    mixedChunks.flatMap Chunk.shown = mixedEnum.code ∧
    (∃ constants, parseEnum (.ofList (mixedChunks.flatMap Chunk.text)) =
        .ok { name := "Mode", underlying := "int64_t", constants } ∧
      Numbered mixedEnum.declared constants) ∧
    mixedEnum.enumType.constants.map EnumConstant.value =
      ["0", "-2", "-1", "1 << 4", "0", "0x1FuL", "0x80000000000000000000000000000000", "32"] := by
  have shown : mixedChunks.flatMap Chunk.shown = mixedEnum.code := by decide +kernel
  exact ⟨shown, parseEnum_text mixedEnum shown, by decide +kernel⟩

end HeaderBindings.Header
