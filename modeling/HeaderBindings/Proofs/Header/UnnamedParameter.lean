import HeaderBindings.Proofs.Header.Heading

/-!
# Parameters without a name

A parameter may be declared by its type alone, and is then named after its
position.  The recognizer takes the last word of such a type for a name if
anything stands in front of it, and a word with an equals sign behind it for
one with a default.  So the type is kept whole exactly if no word of it has an
equals sign behind it and it either ends in a sign or is a single identifier.
-/

namespace HeaderBindings.Header

open BracketCount (allKinds parens)
open Text (isBlank isWord Trimmed)

/-! ## Reading without a default -/

/-- The argument that a type declares by itself at a position. -/
def unnamedArgument (position : Nat) (type : String) : Argument where
  name := s!"arg{position}"
  type
  abiType := Typing.withoutReference type

section

variable {text front name : String} {replacements : List (String × String)} {position : Nat}

/-- A word with an equals sign behind it is taken for the name in front of a default. -/
theorem isSome_default_of_followed {word : Text.Occurrence}
    (member : word ∈ Text.occurrences text.toList) (followed : word.next? = some '=') :
    (parseArgument replacements position text).default.isSome = true := by
  unfold parseArgument
  dsimp only
  cases found : (Text.occurrences text.toList).find? fun word => word.next? == some '=' with
  | some first => rfl
  | none =>
      rw [List.find?_eq_none] at found
      exact absurd (beq_iff_eq.mpr followed) (found word member)

variable (noDefault : ∀ word ∈ Text.occurrences text.toList, word.next? ≠ some '=')
include noDefault

theorem find?_default :
    (Text.occurrences text.toList).find? (fun word => word.next? == some '=') = none := by
  rw [List.find?_eq_none]
  intro word member followed
  exact noDefault word member (beq_iff_eq.mp followed)

/-- A type that ends in a sign is kept. -/
theorem parseArgument_signed {init : List Char} {sign : Char}
    (split : text.toList = init ++ [sign]) (notWord : isWord sign = false) :
    parseArgument replacements position text = unnamedArgument position (Text.trim text) := by
  have last : ((Text.occurrences text.toList).getLast?.filter fun word =>
      word.after.isEmpty && !(word.before.all isBlank)) = none := by
    rw [split, Text.occurrences_concat notWord, List.getLast?_map]
    cases (Text.occurrences init).getLast? with
    | none => rfl
    | some word => simp [Text.Occurrence.extend]
  unfold parseArgument
  dsimp only
  rw [find?_default noDefault, last]
  rfl

/-- A type that is a single identifier is kept. -/
theorem parseArgument_identifier (named : isName text = true) :
    parseArgument replacements position text = unnamedArgument position text := by
  have last := Text.getLast?_occurrences (nonempty_of_isName named) (isWord_of_isName named)
    (rfl : ([].getLast?).any isWord = false)
  rw [List.nil_append] at last
  unfold parseArgument
  dsimp only
  rw [find?_default noDefault, last]
  dsimp only [Option.filter, List.all_nil]
  rw [(trimmed_of_isName named).trim_eq]
  rfl

/-- The last word of a text is taken for a name if something stands in front of it. -/
theorem parseArgument_lastWord (split : text = front ++ name) (named : isName name = true)
    (apart : front.toList.getLast?.any isWord = false)
    (notBlank : front.toList.all isBlank = false) :
    parseArgument replacements position text =
      { name
        type := Text.trim front
        abiType := Typing.withoutReference (Text.trim front) } := by
  have last := Text.getLast?_occurrences (nonempty_of_isName named) (isWord_of_isName named) apart
  rw [← String.toList_append, ← split] at last
  unfold parseArgument
  dsimp only
  rw [find?_default noDefault, last, Option.filter_some, if_pos (by simp [notBlank])]
  dsimp only
  rw [String.ofList_toList, String.ofList_toList]

end

/-! ## Types -/

/-- An identifier of a qualified name, with its template arguments if it has any. -/
structure NamePart where
  identifier : String
  arguments : Option String := none

namespace NamePart

variable (part : NamePart)

def argumentText : String :=
  match part.arguments with
  | some list => "<" ++ (list ++ ">")
  | none => ""

def text : String :=
  part.identifier ++ part.argumentText

/-- The brackets of the template arguments are balanced. -/
@[mk_iff]
structure WellFormed : Prop where
  identifier : isName part.identifier = true
  arguments : ∀ list ∈ part.arguments,
    allKinds.Balanced list.toList ∧ parens.Balanced list.toList

instance : Decidable part.WellFormed :=
  decidable_of_iff' _ (wellFormed_iff part)

variable {part}

theorem WellFormed.listable (wellFormed : part.WellFormed) : Listable part.text.toList := by
  rw [text, String.toList_append]
  apply Listable.append (listable_of_isPiece (isPiece_of_isName wellFormed.identifier))
  rw [argumentText]
  cases arguments : part.arguments with
  | none => exact listable_of_any rfl
  | some list =>
      rcases wellFormed.arguments list arguments with ⟨balanced, parensBalanced⟩
      rw [String.toList_append, String.toList_append]
      exact listable_angled balanced parensBalanced

theorem WellFormed.exists_start (wellFormed : part.WellFormed) :
    ∃ c, part.text.toList.head? = some c ∧ isBlank c = false := by
  have nonempty := nonempty_of_isName wellFormed.identifier
  refine ⟨part.identifier.toList.head nonempty, ?_,
    (trimmed_of_isName wellFormed.identifier).start nonempty⟩
  rw [text, String.toList_append, List.head?_append_of_ne_nil _ nonempty,
    List.head?_eq_some_head nonempty]

theorem exists_argumentText (some : part.arguments.isSome = true) :
    ∃ init, part.argumentText.toList = init ++ ['>'] := by
  rcases Option.isSome_iff_exists.mp some with ⟨list, arguments⟩
  refine ⟨'<' :: list.toList, ?_⟩
  rw [argumentText, arguments]
  simp

end NamePart

/-- The type of a parameter without a name: a qualified name, which may be constant, and a sign. -/
structure UnnamedType where
  /-- The blanks behind `const`, if the type is constant. -/
  constant : Option String := none
  /-- What stands in front of the last part of the name, each part with two colons behind it. -/
  scopes : List NamePart := []
  name : NamePart
  /-- The sign of a pointer or a reference, with the blanks in front of it. -/
  sign : Option (String × Char) := none

namespace UnnamedType

variable (type : UnnamedType)

def constantText : String :=
  match type.constant with
  | some blanks => "const" ++ blanks
  | none => ""

/-- The text in front of the last part of the name. -/
def front : String :=
  type.constantText ++
    .ofList (type.scopes.flatMap fun scope => scope.text.toList ++ [':', ':'])

def signText : String :=
  match type.sign with
  | some (blanks, sign) => blanks.push sign
  | none => ""

def text : String :=
  type.front ++ (type.name.text ++ type.signText)

@[mk_iff]
structure WellFormed : Prop where
  constant : ∀ blanks ∈ type.constant, blanks ≠ "" ∧ blanks.toList.all isBlank = true
  scopes : ∀ scope ∈ type.scopes, scope.WellFormed
  name : type.name.WellFormed
  sign : ∀ sign ∈ type.sign, sign.1.toList.all isBlank = true ∧ (sign.2 = '*' ∨ sign.2 = '&')

instance : Decidable type.WellFormed :=
  decidable_of_iff' _ (wellFormed_iff type)

/-- The argument that the type declares at a position. -/
def argument (position : Nat) : Argument :=
  unnamedArgument position type.text

/-- No word of the type has an equals sign behind it, and the type ends in a sign or is a single
identifier. -/
def IsWhole : Prop :=
  (∀ word ∈ Text.occurrences type.text.toList, word.next? ≠ some '=') ∧
    ((type.sign.isSome = true ∨ type.name.arguments.isSome = true) ∨
      type.constant = none ∧ type.scopes = [])

instance : Decidable type.IsWhole :=
  inferInstanceAs (Decidable (_ ∧ _))

variable {type}

namespace WellFormed

variable (wellFormed : type.WellFormed)
include wellFormed

theorem listable_text : Listable type.text.toList := by
  have blanksListable {blanks : List Char} (blank : ∀ c ∈ blanks, isBlank c = true) :
      Listable blanks :=
    listable_plain fun c member => delimits_of_isBlank (blank c member)
  rw [text, front, String.toList_append, String.toList_append, String.toList_append,
    String.toList_ofList]
  refine Listable.append (Listable.append ?constant ?scopes)
    (Listable.append wellFormed.name.listable ?sign)
  case constant =>
    rw [constantText]
    cases constant : type.constant with
    | none => exact listable_of_any rfl
    | some blanks =>
        rw [String.toList_append]
        exact Listable.append (listable_of_any (by decide))
          (blanksListable (List.all_eq_true.mp (wellFormed.constant blanks constant).2))
  case scopes =>
    have eachScope := wellFormed.scopes
    generalize type.scopes = parts at eachScope
    induction parts with
    | nil => exact listable_of_any rfl
    | cons part parts ih =>
        rcases List.forall_mem_cons.mp eachScope with ⟨isPart, isRest⟩
        exact Listable.append (Listable.append isPart.listable (listable_of_any (by decide)))
          (ih isRest)
  case sign =>
    rw [signText]
    cases sign : type.sign with
    | none => exact listable_of_any rfl
    | some sides =>
        rcases wellFormed.sign sides sign with ⟨blank, isSign⟩
        rw [String.toList_push]
        refine Listable.append (blanksListable (List.all_eq_true.mp blank)) (listable_plain ?_)
        rcases isSign with isStar | isReference
        · simp [isStar, delimits, opensBracket, closesBracket]
        · simp [isReference, delimits, opensBracket, closesBracket]

theorem exists_start : ∃ c, type.text.toList.head? = some c ∧ isBlank c = false := by
  rw [text, front, constantText]
  cases type.constant with
  | some blanks => exact ⟨'c', by simp, by decide⟩
  | none =>
      have eachScope := wellFormed.scopes
      cases scopes : type.scopes with
      | nil =>
          rcases wellFormed.name.exists_start with ⟨c, starts, notBlank⟩
          exact ⟨c, by simp [starts], notBlank⟩
      | cons scope rest =>
          rw [scopes] at eachScope
          rcases (eachScope scope List.mem_cons_self).exists_start with ⟨c, starts, notBlank⟩
          exact ⟨c, by simp [starts], notBlank⟩

/-- A type with a sign or with template arguments ends in a character that is no part of a word. -/
theorem exists_finish (signed : type.sign.isSome = true ∨ type.name.arguments.isSome = true) :
    ∃ init c, type.text.toList = init ++ [c] ∧ isWord c = false ∧ isBlank c = false := by
  cases sign : type.sign with
  | some sides =>
      refine ⟨type.front.toList ++ (type.name.text.toList ++ sides.1.toList), sides.2, ?_, ?_⟩
      · simp [text, signText, sign]
      · rcases (wellFormed.sign sides sign).2 with isStar | isReference
        · rw [isStar]
          decide
        · rw [isReference]
          decide
  | none =>
      rw [sign] at signed
      have withArguments := signed.resolve_left Bool.false_ne_true
      rcases NamePart.exists_argumentText withArguments with ⟨init, split⟩
      refine ⟨type.front.toList ++ (type.name.identifier.toList ++ init), '>', ?_, by decide⟩
      simp [text, signText, sign, NamePart.text, split]

omit wellFormed in
theorem text_unsigned (unsigned : ¬ (type.sign.isSome = true ∨ type.name.arguments.isSome = true)) :
    type.text = type.front ++ type.name.identifier := by
  rw [not_or, Bool.not_eq_true, Bool.not_eq_true, Option.isSome_eq_false_iff,
    Option.isSome_eq_false_iff, Option.isNone_iff_eq_none, Option.isNone_iff_eq_none] at unsigned
  simp [text, signText, unsigned.1, NamePart.text, NamePart.argumentText, unsigned.2]

theorem text_trimmed : Trimmed type.text := by
  rcases wellFormed.exists_start with ⟨first, head, firstNotBlank⟩
  by_cases signed : type.sign.isSome = true ∨ type.name.arguments.isSome = true
  · rcases wellFormed.exists_finish signed with ⟨init, last, finishes, -, lastNotBlank⟩
    refine Text.trimmed_of_ends head firstNotBlank ?_ lastNotBlank
    rw [finishes, List.getLast?_concat]
  · have identifier := wellFormed.name.identifier
    have nonempty := nonempty_of_isName identifier
    have last := List.getLast?_eq_some_getLast nonempty
    refine Text.trimmed_of_ends head firstNotBlank ?_
      ((trimmed_of_isName identifier).finish nonempty)
    rw [text_unsigned signed, String.toList_append, List.getLast?_append_of_ne_nil _ nonempty, last]

theorem text_nonempty : type.text.toList ≠ [] := by
  rcases wellFormed.exists_start with ⟨c, head, -⟩
  intro empty
  rw [empty] at head
  cases head

theorem front_apart : type.front.toList.getLast?.any isWord = false := by
  rw [front, constantText, String.toList_append, String.toList_ofList]
  rcases List.eq_nil_or_concat' type.scopes with none | ⟨scopes, scope, split⟩
  · rw [none, List.flatMap_nil, List.append_nil]
    cases constant : type.constant with
    | none => rfl
    | some blanks =>
        rcases wellFormed.constant blanks constant with ⟨isText, blank⟩
        have nonempty : blanks.toList ≠ [] :=
          fun empty => isText (String.toList_eq_nil_iff.mp empty)
        have last := List.all_eq_true.mp blank _ (List.getLast_mem nonempty)
        rw [String.toList_append, List.getLast?_append_of_ne_nil _ nonempty,
          List.getLast?_eq_some_getLast nonempty, Option.any_some]
        exact Text.isWord_of_isBlank last
  · rw [split]
    simp only [List.flatMap_append, List.flatMap_singleton, ← List.append_assoc]
    rw [List.getLast?_append_of_ne_nil _ (by simp)]
    decide

omit wellFormed in
theorem front_notBlank (several : ¬ (type.constant = none ∧ type.scopes = [])) :
    type.front.toList.all isBlank = false := by
  rw [Bool.eq_false_iff]
  intro blank
  rw [List.all_eq_true] at blank
  have notIn (c : Char) (notBlank : isBlank c = false) : c ∉ type.front.toList := by
    intro member
    rw [blank c member] at notBlank
    cases notBlank
  apply several
  constructor
  · cases constant : type.constant with
    | none => rfl
    | some blanks =>
        refine absurd ?_ (notIn 'c' (by decide))
        rw [front, constantText, constant]
        simp
  · cases scopes : type.scopes with
    | nil => rfl
    | cons scope rest =>
        refine absurd ?_ (notIn ':' (by decide))
        rw [front, scopes]
        simp

/-- The type is kept exactly if it is whole. -/
theorem parseArgument_eq_argument_iff {replacements : List (String × String)} {position : Nat} :
    parseArgument replacements position type.text = type.argument position ↔ type.IsWhole := by
  constructor
  · intro read
    have noDefault : ∀ word ∈ Text.occurrences type.text.toList, word.next? ≠ some '=' := by
      intro word member followed
      have default : (type.argument position).default.isSome = true := by
        rw [← read]
        exact isSome_default_of_followed member followed
      cases default
    refine ⟨noDefault, ?_⟩
    by_contra split
    rw [not_or] at split
    have whole := text_unsigned split.1
    have last := read.symm.trans (parseArgument_lastWord noDefault whole wellFormed.name.identifier
      wellFormed.front_apart (front_notBlank split.2))
    have same : type.text = Text.trim type.front := congrArg Argument.type last
    have shorter := Text.length_trim_le type.front
    have identifier := List.length_pos_iff.mpr (nonempty_of_isName wellFormed.name.identifier)
    rw [← same, whole, String.toList_append, List.length_append] at shorter
    omega
  · rintro ⟨noDefault, whole⟩
    by_cases signed : type.sign.isSome = true ∨ type.name.arguments.isSome = true
    · rcases wellFormed.exists_finish signed with ⟨init, c, finishes, notWord, -⟩
      rw [parseArgument_signed noDefault finishes notWord, wellFormed.text_trimmed.trim_eq]
      rfl
    · rcases whole.resolve_left signed with ⟨constant, scopes⟩
      have alone : type.text = type.name.identifier := by
        rw [text_unsigned signed, front, constantText, constant, scopes]
        exact String.empty_append
      rw [alone] at noDefault
      rw [argument, alone]
      exact parseArgument_identifier noDefault wellFormed.name.identifier

end WellFormed

end UnnamedType

/-! ## Declarations -/

/-- A parameter of a declaration, with or without a name. -/
inductive Slot where
  | named (parameter : Parameter)
  | unnamed (type : UnnamedType)

namespace Slot

def text : Slot → String
  | named parameter => parameter.text
  | unnamed type => type.text

def WellFormed : Slot → Prop
  | named parameter => parameter.WellFormed
  | unnamed type => type.WellFormed

/-- The argument that is declared at a position. -/
def argument (replacements : List (String × String)) (position : Nat) : Slot → Argument
  | named parameter => parameter.argument replacements
  | unnamed type => type.argument position

def IsWhole : Slot → Prop
  | named _ => True
  | unnamed type => type.IsWhole

instance (slot : Slot) : Decidable slot.WellFormed :=
  match slot with
  | named parameter => inferInstanceAs (Decidable parameter.WellFormed)
  | unnamed type => inferInstanceAs (Decidable type.WellFormed)

instance (slot : Slot) : Decidable slot.IsWhole :=
  match slot with
  | named _ => inferInstanceAs (Decidable True)
  | unnamed type => inferInstanceAs (Decidable type.IsWhole)

variable {slot : Slot}

theorem isInstance_argument (replacements : List (String × String)) (position : Nat) :
    (slot.argument replacements position).isInstance = false := by
  cases slot <;> rfl

namespace WellFormed

variable (wellFormed : slot.WellFormed)
include wellFormed

theorem listable_text : Listable slot.text.toList := by
  cases slot with
  | named parameter => exact listable_of_isPiece (Parameter.WellFormed.text_isPiece wellFormed)
  | unnamed type => exact UnnamedType.WellFormed.listable_text wellFormed

theorem text_trimmed : Trimmed slot.text := by
  cases slot with
  | named parameter => exact Parameter.WellFormed.text_trimmed wellFormed
  | unnamed type => exact UnnamedType.WellFormed.text_trimmed wellFormed

theorem text_nonempty : slot.text.toList ≠ [] := by
  cases slot with
  | named parameter => exact Parameter.WellFormed.text_nonempty wellFormed
  | unnamed type => exact UnnamedType.WellFormed.text_nonempty wellFormed

theorem parseArgument_eq_argument_iff {replacements : List (String × String)} {position : Nat} :
    parseArgument replacements position slot.text = slot.argument replacements position ↔
      slot.IsWhole := by
  cases slot with
  | named parameter =>
      exact iff_true_intro
        (Parameter.WellFormed.parseArgument_text wellFormed replacements position)
  | unnamed type => exact UnnamedType.WellFormed.parseArgument_eq_argument_iff wellFormed

end WellFormed

end Slot

section

variable {owner : Class} {replacements : List (String × String)} {heading : Heading}
variable {slots : List Slot} {tail : String} {groups : List ArrayGroup}

/-- The argument list of some parameters, and what stands behind it. -/
def slotsText (slots : List Slot) (tail : String) : String :=
  Text.joinWith ", " (slots.map Slot.text) ++ (")" ++ tail)

/-- The arguments that some parameters declare, the first one at the given position. -/
def slotArguments (replacements : List (String × String)) (position : Nat) (slots : List Slot) :
    List Argument :=
  slots.mapIdx fun i slot => slot.argument replacements (position + i)

/-- Parameters are read as what they declare exactly if all of them are whole. -/
theorem slotArguments_eq_iff (wellFormed : ∀ slot ∈ slots, slot.WellFormed) {position : Nat} :
    slotArguments replacements position slots =
        (slots.map Slot.text).mapIdx
          (fun i text => parseArgument replacements (position + i) text) ↔
      ∀ slot ∈ slots, slot.IsWhole := by
  rw [slotArguments, List.mapIdx_eq_iff]
  simp only [List.getElem?_mapIdx, List.getElem?_map]
  constructor
  · intro same slot member
    rcases List.mem_iff_getElem?.mp member with ⟨i, isSlot⟩
    have read := same i
    rw [isSlot, Option.map_some, Option.map_some, Option.map_some, Option.some.injEq] at read
    exact (wellFormed slot member).parseArgument_eq_argument_iff.mp read
  · intro whole i
    cases isSlot : slots[i]? with
    | none => rfl
    | some slot =>
        have member := List.mem_of_getElem? isSlot
        rw [Option.map_some, Option.map_some, Option.map_some, Option.some.injEq]
        exact (wellFormed slot member).parseArgument_eq_argument_iff.mpr (whole slot member)

variable (headed : heading.WellFormed owner) (wellFormed : ∀ slot ∈ slots, slot.WellFormed)
variable (notVoid : slots.map Slot.text ≠ ["void"])
include headed wellFormed notVoid

/-- Every parameter is read by itself. -/
theorem parseFunction_slotsText_eq_ok_iff {f : Function} :
    parseFunction owner replacements (heading.text ++ slotsText slots tail) = .ok f ↔
      ∃ values groups,
        values = (slots.map Slot.text).mapIdx (fun i text =>
          parseArgument replacements (owner.kind.receivers.length + i) text) ∧
        (∀ arg ∈ values, refusedPart? arg.type = none) ∧
        Typing.arrayGroups heading.name (owner.kind.receivers ++ values) = .ok groups ∧
        f = heading.function owner values groups := by
  have listable : ∀ text ∈ slots.map Slot.text, Listable text.toList :=
    List.forall_mem_map.mpr fun slot member => (wellFormed slot member).listable_text
  have trimmed : ∀ text ∈ slots.map Slot.text, Trimmed text :=
    List.forall_mem_map.mpr fun slot member => (wellFormed slot member).text_trimmed
  have nonempty : ∀ text ∈ slots.map Slot.text, text.toList ≠ [] :=
    List.forall_mem_map.mpr fun slot member => (wellFormed slot member).text_nonempty
  have closed : toClosingParen? 0 (slotsText slots tail).toList =
      some ((Text.joinWith ", " (slots.map Slot.text)).toList, tail.toList) := by
    rw [slotsText, String.toList_append, toClosingParen?_joined listable, String.toList_append]
    show some (_ ++ [], tail.toList) = _
    rw [List.append_nil]
  have split : splitArguments (Text.joinWith ", " (slots.map Slot.text)) =
      .ok (slots.map Slot.text) :=
    splitArguments_texts
      (fun text member => ⟨trimmed text member, (listable text member).undivided⟩) nonempty notVoid
  rw [headed.parseFunction_eq_ok_iff, closed]
  simp only [Option.some.injEq, Prod.mk.injEq]
  constructor
  · rintro ⟨_, _, pieces, values, groups, ⟨rfl, rfl⟩, read, readValues, grouped, equal⟩
    rw [String.ofList_toList, split] at read
    cases read
    rcases parseArguments_eq_ok_iff.mp readValues with ⟨isValues, allowed⟩
    exact ⟨values, groups, isValues, allowed, grouped, equal⟩
  · rintro ⟨values, groups, isValues, allowed, grouped, equal⟩
    refine ⟨_, _, slots.map Slot.text, values, groups, ⟨rfl, rfl⟩, ?_,
      parseArguments_eq_ok_iff.mpr ⟨isValues, allowed⟩, grouped, equal⟩
    rw [String.ofList_toList]
    exact split

/--
A parameter without a name keeps its type exactly if the type is whole.  The declaration is read
with the arguments that its parameters declare exactly if all of them are.
-/
theorem parseFunction_slotsText :
    (∀ f, parseFunction owner replacements (heading.text ++ slotsText slots tail) = .ok f →
      ∀ i type, slots[i]? = some (.unnamed type) →
        (f.args[owner.kind.receivers.length + i]? =
            some (type.argument (owner.kind.receivers.length + i)) ↔ type.IsWhole)) ∧
    ∀ declared, declared = slotArguments replacements owner.kind.receivers.length slots →
      (∀ arg ∈ declared, refusedPart? arg.type = none) →
      Typing.Grouped declared groups → (groups ≠ [] ↔ Text.endsWith heading.name "_c" = true) →
        (parseFunction owner replacements (heading.text ++ slotsText slots tail) =
            .ok (heading.function owner declared groups) ↔ ∀ slot ∈ slots, slot.IsWhole) := by
  constructor
  · intro f read i type isSlot
    rcases (parseFunction_slotsText_eq_ok_iff headed wellFormed notVoid).mp read with
      ⟨values, groups, rfl, -, -, rfl⟩
    rw [Heading.function, List.getElem?_append_right (Nat.le_add_right _ _),
      Nat.add_sub_cancel_left, List.getElem?_mapIdx, List.getElem?_map, isSlot]
    simp only [Option.map_some, Option.some.injEq]
    exact (wellFormed _ (List.mem_of_getElem? isSlot)).parseArgument_eq_argument_iff
  · rintro declared rfl allowed grouped suffix
    constructor
    · intro read
      rcases (parseFunction_slotsText_eq_ok_iff headed wellFormed notVoid).mp read with
        ⟨values, others, isValues, -, -, equal⟩
      have same := congrArg Function.args equal
      rw [Heading.function, Heading.function, List.append_cancel_left_eq, isValues] at same
      exact (slotArguments_eq_iff wellFormed).mp same
    · intro whole
      have isValue : ∀ arg ∈ slotArguments replacements owner.kind.receivers.length slots,
          arg.isInstance = false := by
        intro arg member
        rcases List.mem_mapIdx.mp member with ⟨i, _, rfl⟩
        exact Slot.isInstance_argument replacements _
      exact (parseFunction_slotsText_eq_ok_iff headed wellFormed notVoid).mpr
        ⟨_, groups, (slotArguments_eq_iff wellFormed).mpr whole, allowed,
          (ClassKind.arrayGroups_eq_ok_iff isValue).mpr ⟨grouped, suffix⟩, rfl⟩

end

/-- A reference to a constant container, a pointer and an identifier, around a parameter with a
name. -/
def unnamedSlots : List Slot := [
  .unnamed {
    constant := some " "
    scopes := [{ identifier := "godot" }]
    name := { identifier := "Map", arguments := some "K, Pair<V, f(0)>" }
    sign := some (" ", '&') },
  .named { type := "float", name := "weight", default := some "1.0f" },
  .unnamed {
    scopes := [{ identifier := "Scene", arguments := some "2" }]
    name := { identifier := "Camera" }
    sign := some ("", '*') },
  .unnamed { name := { identifier := "real_t" } }]

def blendHeading : Heading :=
  { result := "virtual real_t", name := "blend" }

theorem unnamedSlots_read :
    blendHeading.WellFormed Prototype.mesh ∧
    (∀ slot ∈ unnamedSlots, slot.WellFormed) ∧
    unnamedSlots.map Slot.text =
      ["const godot::Map<K, Pair<V, f(0)>> &", "float weight = 1.0f", "Scene<2>::Camera*",
        "real_t"] ∧
    ∃ f, parseFunction Prototype.mesh []
        (blendHeading.text ++ slotsText unnamedSlots " const;") = .ok f ∧
      f.args[1]? = some (unnamedArgument 1 "const godot::Map<K, Pair<V, f(0)>> &") ∧
      f.args[3]? = some (unnamedArgument 3 "Scene<2>::Camera*") ∧
      f.args[4]? = some (unnamedArgument 4 "real_t") := by
  have headed : blendHeading.WellFormed Prototype.mesh := by decide +kernel
  have wellFormed : ∀ slot ∈ unnamedSlots, slot.WellFormed := by decide +kernel
  have texts : unnamedSlots.map Slot.text =
      ["const godot::Map<K, Pair<V, f(0)>> &", "float weight = 1.0f", "Scene<2>::Camera*",
        "real_t"] := by decide +kernel
  have notVoid : unnamedSlots.map Slot.text ≠ ["void"] := by simp [texts]
  have whole : ∀ slot ∈ unnamedSlots, slot.IsWhole := by decide +kernel
  have allowed : ∀ arg ∈ slotArguments [] 1 unnamedSlots, refusedPart? arg.type = none := by
    decide +kernel
  have isValue : ∀ arg ∈ slotArguments [] 1 unnamedSlots, arg.isInstance = false := by
    decide +kernel
  have grouped : Typing.Grouped (slotArguments [] 1 unnamedSlots) [] :=
    Typing.grouped_of_groupsAfter isValue (by simp) (by decide +kernel :
      Typing.groupsAfter "blend" none (slotArguments [] 1 unnamedSlots) = .ok [])
  rcases parseFunction_slotsText headed wellFormed notVoid with ⟨kept, read⟩
  have accepted := (read _ rfl allowed grouped (by decide)).mpr whole
  exact ⟨headed, wellFormed, texts, _, accepted,
    (kept _ accepted 0 _ rfl).mpr (by decide +kernel),
    (kept _ accepted 2 _ rfl).mpr (by decide +kernel),
    (kept _ accepted 3 _ rfl).mpr (by decide +kernel)⟩

def qualifiedType : UnnamedType :=
  { constant := some " "
    scopes := [{ identifier := "godot" }]
    name := { identifier := "Vector3" } }

def tracker : Class :=
  { name := "A", kind := .singleton }

def trackHeading : Heading :=
  { result := "void", name := "f" }

/-- The last word of a qualified type without a sign is taken for a name. -/
theorem unnamed_types_not_always_kept :
    ¬ ∀ (owner : Class) (replacements : List (String × String)) (heading : Heading)
      (slots : List Slot) (tail : String),
      heading.WellFormed owner → (∀ slot ∈ slots, slot.WellFormed) →
        slots.map Slot.text ≠ ["void"] →
          ∀ f, parseFunction owner replacements (heading.text ++ slotsText slots tail) = .ok f →
            ∀ i type, slots[i]? = some (.unnamed type) →
              f.args[owner.kind.receivers.length + i]? =
                some (type.argument (owner.kind.receivers.length + i)) := by
  intro always
  have text : trackHeading.text ++ slotsText [.unnamed qualifiedType] ";" =
      "void f(const godot::Vector3);" := by decide +kernel
  have read : parseFunction tracker [] "void f(const godot::Vector3);" =
      .ok (trackHeading.function tracker
        [{ name := "Vector3", type := "const godot::", abiType := "const godot::" }] []) := by
    decide +kernel
  have kept := always tracker [] trackHeading [.unnamed qualifiedType] ";" (by decide +kernel)
    (by decide +kernel) (by decide +kernel) _ (text ▸ read) 0 qualifiedType rfl
  exact absurd kept (by decide +kernel)

end HeaderBindings.Header
