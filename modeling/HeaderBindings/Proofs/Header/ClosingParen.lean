import HeaderBindings.Header.FunctionDeclaration
import HeaderBindings.Proofs.Header.BracketDepth
import HeaderBindings.Proofs.Text.Segmentation
import HeaderBindings.Proofs.Text.Slice
import Mathlib.Order.Bounds.Basic

/-!
# The closing parenthesis

An open parenthesis is closed at the first position up to which as many
parentheses are closed as opened.  The search counts them in one pass: between
the two ends the count is positive, so it is never lowered below zero, and the
search stops where it comes back to zero.  Both readers of declarations start
this search at an opening parenthesis, so the argument list that they cut out
of a declaration lies inside of it.
-/

namespace HeaderBindings.Header

open BracketCount (parens)
open Text (isBlank Occurrence)

/-! ## Positions -/

/-- The position where the parenthesis at `start` is closed. -/
def closingParen? (text : List Char) (start : Nat) : Option Nat :=
  (toClosingParen? 0 (text.drop (start + 1))).map fun sides => start + 1 + sides.1.length

/-- From `start` up to a later position, as many parentheses are closed as opened. -/
structure EvenAt (text : List Char) (start last : Nat) : Prop where
  later : start < last
  within : last < text.length
  even : (text.extract start (last + 1)).count ')' = (text.extract start (last + 1)).count '('

/-- The search for the parenthesis that closes the one at `start`. -/
structure ParenSearch (text : List Char) (start : Nat) : Prop where
  /-- It ends at the first position up to which the parentheses are even. -/
  found : ∀ close,
    closingParen? text start = some close ↔ IsLeast {last | EvenAt text start last} close
  /-- It fails if there is none. -/
  missing : closingParen? text start = none ↔ ∀ last, ¬ EvenAt text start last
  /-- Ahead of its end the count of open parentheses is positive, and the search goes on with it. -/
  counting : ∀ last, start ≤ last → last < text.length →
    (∀ close, closingParen? text start = some close → last < close) →
    ∃ inner, (text.extract start (last + 1)).foldlM parens.step? 0 = some (inner + 1) ∧
      toClosingParen? 0 (text.drop (start + 1)) =
        (toClosingParen? inner (text.drop (last + 1))).map fun sides =>
          (text.extract (start + 1) (last + 1) ++ sides.1, sides.2)
  /-- The last step lowers the count to zero. -/
  closing : ∀ close, closingParen? text start = some close →
    (text.extract start (close + 1)).foldlM parens.step? 0 = some 0
  /-- What it returns is what stands between the two parentheses, and what follows. -/
  between : ∀ close, closingParen? text start = some close →
    start + 1 ≤ close ∧ close < text.length ∧ text[close]? = some ')' ∧
      toClosingParen? 0 (text.drop (start + 1)) =
        some (text.extract (start + 1) close, text.drop (close + 1))

section

variable {opened left start last close : Nat} {text list after : List Char}

/-! ## Counts -/

theorem depth_parens (text : List Char) :
    parens.depth text = text.count '(' - text.count ')' := by
  induction text with
  | nil => rfl
  | cons c text ih =>
      rw [BracketCount.depth_cons, ih, List.count_cons, List.count_cons]
      by_cases opens : c = '('
      · simp [BracketCount.weight, parens, opens]
        omega
      · by_cases closes : c = ')'
        · simp [BracketCount.weight, parens, closes]
          omega
        · simp [BracketCount.weight, parens, opens, closes]

/-- One more parenthesis may be open all along. -/
theorem foldlM_step?_succ (steps : text.foldlM parens.step? opened = some left) :
    text.foldlM parens.step? (opened + 1) = some (left + 1) := by
  rw [BracketCount.foldlM_step?_eq_some_iff] at steps ⊢
  rcases steps with ⟨nonneg, finish⟩
  refine ⟨fun front member => ?_, by omega⟩
  have above := nonneg front member
  omega

theorem foldlM_step?_take (steps : text.foldlM parens.step? opened = some left) (size : Nat) :
    ∃ part, (text.take size).foldlM parens.step? opened = some part := by
  rw [← List.take_append_drop size text, List.foldlM_append] at steps
  rcases Option.bind_eq_some_iff.mp steps with ⟨part, front, -⟩
  exact ⟨part, front⟩

/-- Nothing closes an open parenthesis if all steps succeed. -/
theorem toClosingParen?_eq_none_iff :
    toClosingParen? opened text = none ↔ ∃ left, text.foldlM parens.step? opened = some left := by
  induction text generalizing opened with
  | nil => simp [toClosingParen?]
  | cons c text ih =>
      rw [toClosingParen?_cons, List.foldlM_cons]
      cases parens.step? opened c with
      | none => simp
      | some next => simp [ih]

/-! ## The search -/

theorem closingParen?_eq_none_iff :
    closingParen? text start = none ↔ toClosingParen? 0 (text.drop (start + 1)) = none :=
  Option.map_eq_none_iff

theorem closingParen?_eq_some_iff :
    closingParen? text start = some close ↔
      ∃ list after, toClosingParen? 0 (text.drop (start + 1)) = some (list, after) ∧
        start + 1 + list.length = close := by
  simp [closingParen?]

/-- Ahead of the closing parenthesis the steps behind the opening one succeed. -/
theorem steps_before_close
    (before : ∀ close, closingParen? text start = some close → last < close) :
    ∃ inner, ((text.drop (start + 1)).take (last - start)).foldlM parens.step? 0 = some inner := by
  cases search : toClosingParen? 0 (text.drop (start + 1)) with
  | none =>
      rcases toClosingParen?_eq_none_iff.mp search with ⟨left, steps⟩
      exact foldlM_step?_take steps _
  | some sides =>
      rcases sides with ⟨list, after⟩
      have ahead := before _ (closingParen?_eq_some_iff.mpr ⟨list, after, search, rfl⟩)
      rcases toClosingParen?_eq_some_iff.mp search with ⟨split, steps⟩
      rw [split, List.take_append_of_le_length (by omega)]
      exact foldlM_step?_take steps _

/-- The text that the search splits at the closing parenthesis. -/
theorem split_at_close (found : closingParen? text start = some close) :
    start + 1 ≤ close ∧ close < text.length ∧
      text.drop (start + 1) = text.extract (start + 1) close ++ ')' :: text.drop (close + 1) ∧
      (text.extract (start + 1) close).foldlM parens.step? 0 = some 0 := by
  rcases closingParen?_eq_some_iff.mp found with ⟨list, after, search, rfl⟩
  rcases toClosingParen?_eq_some_iff.mp search with ⟨split, steps⟩
  have size := congrArg List.length split
  simp only [List.length_drop, List.length_append, List.length_cons] at size
  have isList : text.extract (start + 1) (start + 1 + list.length) = list := by
    rw [List.extract_eq_take_drop, split, Nat.add_sub_cancel_left, List.take_left]
  have isAfter : text.drop (start + 1 + list.length + 1) = after := by
    rw [Nat.add_assoc (start + 1), ← List.drop_drop, split]
    simp
  rw [isList, isAfter]
  exact ⟨by omega, by omega, split, steps⟩

theorem length_extract_close (found : closingParen? text start = some close) :
    (text.extract (start + 1) close).length = close - (start + 1) := by
  rcases split_at_close found with ⟨later, within, -, -⟩
  rw [List.extract_eq_take_drop, List.length_take, List.length_drop]
  omega

theorem take_upTo_close (found : closingParen? text start = some close) :
    (text.drop (start + 1)).take (close - start) = text.extract (start + 1) close ++ [')'] := by
  have size := length_extract_close found
  rcases split_at_close found with ⟨later, within, split, -⟩
  rw [split, List.take_append, size, List.take_of_length_le (by omega),
    show close - start - (close - (start + 1)) = 1 by omega]
  rfl

theorem getElem?_close (found : closingParen? text start = some close) :
    text[close]? = some ')' := by
  have size := length_extract_close found
  rcases split_at_close found with ⟨later, within, split, -⟩
  have behind : text[close]? = (text.drop (start + 1))[close - (start + 1)]? := by
    rw [List.getElem?_drop, Nat.add_sub_cancel' later]
  rw [behind, split, List.getElem?_append_right size.le, size, Nat.sub_self]
  rfl

/-! ## From an opening parenthesis -/

variable (opens : text[start]? = some '(')

include opens

theorem drop_open : text.drop start = '(' :: text.drop (start + 1) := by
  rcases List.getElem?_eq_some_iff.mp opens with ⟨within, isOpen⟩
  rw [List.drop_eq_getElem_cons within, isOpen]

theorem extract_open (later : start ≤ last) :
    text.extract start (last + 1) = '(' :: (text.drop (start + 1)).take (last - start) := by
  rw [List.extract_eq_take_drop, drop_open opens, Nat.succ_sub later, List.take_succ_cons]

theorem evenAt_iff :
    EvenAt text start last ↔ start < last ∧ last < text.length ∧
      parens.depth ((text.drop (start + 1)).take (last - start)) = -1 := by
  have even (later : start < last) :
      (text.extract start (last + 1)).count ')' = (text.extract start (last + 1)).count '(' ↔
        parens.depth ((text.drop (start + 1)).take (last - start)) = -1 := by
    rw [extract_open opens later.le, depth_parens, List.count_cons_self,
      List.count_cons_of_ne (by decide)]
    omega
  constructor
  · rintro ⟨later, within, isEven⟩
    exact ⟨later, within, (even later).mp isEven⟩
  · rintro ⟨later, within, isEven⟩
    exact ⟨later, within, (even later).mpr isEven⟩

theorem not_evenAt_before_close
    (before : ∀ close, closingParen? text start = some close → last < close) :
    ¬ EvenAt text start last := by
  intro isEven
  rcases steps_before_close before with ⟨inner, steps⟩
  have finish := (BracketCount.foldlM_step?_eq_some_iff.mp steps).2
  have lowered := ((evenAt_iff opens).mp isEven).2.2
  omega

theorem evenAt_close (found : closingParen? text start = some close) :
    EvenAt text start close := by
  rcases split_at_close found with ⟨later, within, -, steps⟩
  have finish := (BracketCount.foldlM_step?_eq_some_iff.mp steps).2
  have lowered : parens.depth [')'] = -1 := by decide
  refine (evenAt_iff opens).mpr ⟨by omega, within, ?_⟩
  rw [take_upTo_close found, BracketCount.depth_append, lowered]
  omega

theorem isLeast_of_closingParen? (found : closingParen? text start = some close) :
    IsLeast {last | EvenAt text start last} close := by
  refine ⟨evenAt_close opens found, fun last isEven => ?_⟩
  by_contra ahead
  refine not_evenAt_before_close opens (fun other alsoFound => ?_) isEven
  rw [found, Option.some.injEq] at alsoFound
  omega

/-- The search from an opening parenthesis. -/
theorem parenSearch : ParenSearch text start where
  found close := by
    constructor
    · exact isLeast_of_closingParen? opens
    · intro isLeast
      cases search : closingParen? text start with
      | none =>
          refine absurd isLeast.1 (not_evenAt_before_close opens fun other found => ?_)
          rw [search] at found
          cases found
      | some other => rw [(isLeast_of_closingParen? opens search).unique isLeast]
  missing := by
    constructor
    · intro missing last
      refine not_evenAt_before_close opens fun close found => ?_
      rw [missing] at found
      cases found
    · intro neverEven
      rw [Option.eq_none_iff_forall_ne_some]
      exact fun close found => neverEven close (evenAt_close opens found)
  counting last later within before := by
    rcases steps_before_close before with ⟨inner, steps⟩
    refine ⟨inner, ?_, ?_⟩
    · rw [extract_open opens later, List.foldlM_cons]
      exact foldlM_step?_succ steps
    · have goesOn := toClosingParen?_steps steps ((text.drop (start + 1)).drop (last - start))
      rw [List.take_append_drop, List.drop_drop,
        show start + 1 + (last - start) = last + 1 by omega] at goesOn
      rw [goesOn, List.extract_eq_take_drop, Nat.add_sub_add_right]
  closing close found := by
    rcases split_at_close found with ⟨later, within, -, steps⟩
    have oneLeft := foldlM_step?_succ steps
    rw [extract_open opens (by omega), take_upTo_close found, ← List.cons_append,
      List.foldlM_append]
    exact Option.bind_eq_some_iff.mpr ⟨1, oneLeft, rfl⟩
  between close found := by
    rcases split_at_close found with ⟨later, within, split, steps⟩
    exact ⟨later, within, getElem?_close found, toClosingParen?_eq_some_iff.mpr ⟨split, steps⟩⟩

end

/-! ## The readers of declarations -/

/-- The position of the first opening parenthesis. -/
def firstParen? (text : List Char) : Option Nat :=
  text.findIdx? (· == '(')

/-- The position of the parenthesis behind the name of a function. -/
def parenBehind (name : Occurrence) : Nat :=
  name.before.length + name.word.length + (name.after.takeWhile isBlank).length

theorem getElem?_firstParen {text : List Char} {start : Nat}
    (first : firstParen? text = some start) : text[start]? = some '(' := by
  rcases List.findIdx?_eq_some_iff_getElem.mp first with ⟨within, isOpen, -⟩
  rw [List.getElem?_eq_getElem within, Option.some.injEq]
  exact beq_iff_eq.mp isOpen

/-- The first parenthesis stands behind what is cut off in front of it. -/
theorem firstParen?_eq_cut? (text : List Char) :
    firstParen? text = (Text.cut? ['('] text).map fun sides => sides.1.length := by
  induction text with
  | nil => rfl
  | cons c rest ih =>
      rw [firstParen?, List.findIdx?_cons, Text.cut?]
      by_cases opens : c = '('
      · simp [opens, List.isPrefixOf?]
      · have further : ['('].isPrefixOf? (c :: rest) = none := by
          simp [List.isPrefixOf?, Ne.symm opens]
        rw [firstParen?] at ih
        rw [if_neg (by simpa using opens), ih, further, Option.map_map, Option.map_map]
        rfl

/-- The first parenthesis of a text is closed if the search from its position ends. -/
theorem argumentsClosed_eq (text : String) :
    argumentsClosed text =
      (firstParen? text.toList).any fun start => (closingParen? text.toList start).isSome := by
  rw [argumentsClosed, firstParen?_eq_cut?]
  cases isCut : Text.cut? ['('] text.toList with
  | none => rfl
  | some sides =>
      have behind : text.toList.drop (sides.1.length + 1) = sides.2 := by
        rw [(Text.cut?_singleton_iff.mp isCut).1, ← List.drop_drop, List.drop_left]
        rfl
      rw [Option.map_some, Option.any_some, closingParen?, behind, Option.isSome_map]

/-- Behind the name of a function stands a parenthesis. -/
theorem eq_of_functionName? {declaration : String} {name : Occurrence}
    (named : functionName? declaration = some name) :
    declaration.toList = (name.before ++ name.word ++ name.after.takeWhile isBlank) ++
      '(' :: (name.after.dropWhile isBlank).tail := by
  have next : (name.after.dropWhile isBlank).head? = some '(' := by
    simpa [Occurrence.next?] using List.find?_some named
  have opens := List.eq_cons_of_mem_head? next
  rw [← opens, List.append_assoc _ (List.takeWhile _ _), List.takeWhile_append_dropWhile,
    List.append_assoc, Text.eq_of_mem_occurrences (List.mem_of_find?_eq_some named)]

theorem length_parenBehind (name : Occurrence) :
    (name.before ++ name.word ++ name.after.takeWhile isBlank).length = parenBehind name := by
  rw [List.length_append, List.length_append, parenBehind]

theorem getElem?_parenBehind {declaration : String} {name : Occurrence}
    (named : functionName? declaration = some name) :
    declaration.toList[parenBehind name]? = some '(' := by
  rw [eq_of_functionName? named, ← length_parenBehind, List.getElem?_append_right le_rfl,
    Nat.sub_self]
  rfl

theorem drop_parenBehind {declaration : String} {name : Occurrence}
    (named : functionName? declaration = some name) :
    declaration.toList.drop (parenBehind name + 1) = (name.after.dropWhile isBlank).tail := by
  rw [eq_of_functionName? named, ← length_parenBehind, ← List.drop_drop, List.drop_left]
  rfl

/-- Declarations with the same name, the same text in front of it and the same argument list are
read alike. -/
theorem parseFunction_parts (owner : Class) (replacements : List (String × String))
    {declaration other : String} {before word after after' list rest rest' : List Char}
    (named : functionName? declaration = some ⟨before, word, after⟩)
    (alsoNamed : functionName? other = some ⟨before, word, after'⟩)
    (closed : toClosingParen? 0 (after.dropWhile isBlank).tail = some (list, rest))
    (alsoClosed : toClosingParen? 0 (after'.dropWhile isBlank).tail = some (list, rest')) :
    parseFunction owner replacements declaration = parseFunction owner replacements other := by
  unfold parseFunction
  rw [named, alsoNamed]
  dsimp only
  rw [closed, alsoClosed]

/-- A declaration is read from the text in front of its name, the name, and what stands between the
parenthesis behind the name and the one that closes it. -/
theorem parseFunction_between (owner : Class) (replacements : List (String × String)) :
    ∃ read : List Char → List Char → List Char → Except FunctionError Function, ∀ declaration,
      parseFunction owner replacements declaration =
        match functionName? declaration with
        | none => .error (.nameMissing declaration)
        | some name =>
          match closingParen? declaration.toList (parenBehind name) with
          | none => .error (.parensOpen declaration)
          | some close =>
            read name.before name.word
              (declaration.toList.extract (parenBehind name + 1) close) := by
  -- once the name and the end of the list are found, nothing else of the declaration is read
  have parts (before word list : List Char) : ∃ outcome, ∀ declaration after rest,
      functionName? declaration = some ⟨before, word, after⟩ →
      toClosingParen? 0 (after.dropWhile isBlank).tail = some (list, rest) →
      parseFunction owner replacements declaration = outcome := by
    by_cases known : ∃ declaration after rest,
        functionName? declaration = some ⟨before, word, after⟩ ∧
        toClosingParen? 0 (after.dropWhile isBlank).tail = some (list, rest)
    · rcases known with ⟨first, after, rest, named, closed⟩
      exact ⟨parseFunction owner replacements first, fun _ _ _ alsoNamed alsoClosed =>
        parseFunction_parts owner replacements alsoNamed named alsoClosed closed⟩
    · exact ⟨.error (.nameMissing ""), fun declaration after rest named closed =>
        absurd ⟨declaration, after, rest, named, closed⟩ known⟩
  choose read reads using parts
  refine ⟨read, fun declaration => ?_⟩
  cases named : functionName? declaration with
  | none =>
      unfold parseFunction
      rw [named]
  | some name =>
      have behind := drop_parenBehind named
      dsimp only
      cases search : closingParen? declaration.toList (parenBehind name) with
      | none =>
          unfold parseFunction
          rw [named]
          dsimp only
          rw [← behind, closingParen?_eq_none_iff.mp search]
      | some close =>
          have closed := ((parenSearch (getElem?_parenBehind named)).between close search).2.2.2
          rw [behind] at closed
          exact reads name.before name.word _ declaration name.after _ named closed

/--
From an opening parenthesis, the search returns the first position up to which
the parentheses are even, and its count never falls below zero.  The readers of
declarations start it at an opening parenthesis only, so what they take for the
argument list lies inside of the declaration.
-/
theorem closingParen?_search :
    (∀ text start, text[start]? = some '(' → ParenSearch text start) ∧
    (∀ text : String,
      (argumentsClosed text =
        (firstParen? text.toList).any fun start => (closingParen? text.toList start).isSome) ∧
      ∀ start, firstParen? text.toList = some start → text.toList[start]? = some '(') ∧
    ∀ owner replacements,
      ∃ read : List Char → List Char → List Char → Except FunctionError Function, ∀ declaration,
        (parseFunction owner replacements declaration =
          match functionName? declaration with
          | none => .error (.nameMissing declaration)
          | some name =>
            match closingParen? declaration.toList (parenBehind name) with
            | none => .error (.parensOpen declaration)
            | some close =>
              read name.before name.word
                (declaration.toList.extract (parenBehind name + 1) close)) ∧
        ∀ name, functionName? declaration = some name →
          declaration.toList[parenBehind name]? = some '(' := by
  refine ⟨fun _ _ => parenSearch,
    fun text => ⟨argumentsClosed_eq text, fun _ => getElem?_firstParen⟩,
    fun owner replacements => ?_⟩
  rcases parseFunction_between owner replacements with ⟨read, reads⟩
  exact ⟨read, fun declaration => ⟨reads declaration, fun _ => getElem?_parenBehind⟩⟩

/-- A declaration with parentheses inside of its argument list and behind it. -/
def nestedParens : String :=
  "void f(int a = (1), int b) const("

/-- Both readers of the declaration start the search behind its name. -/
theorem closingParen?_search_nested :
    (nestedParens.toList[6]? = some '(' ∧ ParenSearch nestedParens.toList 6) ∧
    argumentsClosed nestedParens = (closingParen? nestedParens.toList 6).isSome ∧
    (functionName? nestedParens =
        some ⟨"void ".toList, ['f'], "(int a = (1), int b) const(".toList⟩ ∧
      ∃ read : List Char → Except FunctionError Function,
        parseFunction ⟨"Gate", .regular, [], [], [], [], []⟩ [] nestedParens =
          match closingParen? nestedParens.toList 6 with
          | none => .error (.parensOpen nestedParens)
          | some close => read (nestedParens.toList.extract 7 close)) := by
  have opens : nestedParens.toList[6]? = some '(' := by decide +kernel
  have first : firstParen? nestedParens.toList = some 6 := by decide +kernel
  have named : functionName? nestedParens =
      some ⟨"void ".toList, ['f'], "(int a = (1), int b) const(".toList⟩ := by decide +kernel
  rcases closingParen?_search with ⟨search, closed, parsed⟩
  refine ⟨⟨opens, search _ 6 opens⟩, ?_, named, ?_⟩
  · rw [(closed _).1, first, Option.any_some]
  · rcases parsed ⟨"Gate", .regular, [], [], [], [], []⟩ [] with ⟨read, reads⟩
    refine ⟨read "void ".toList ['f'], ?_⟩
    rw [(reads _).1, named]
    rfl

example : closingParen? nestedParens.toList 6 = some 25 := by
  decide +kernel

end HeaderBindings.Header
