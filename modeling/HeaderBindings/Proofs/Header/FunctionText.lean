import HeaderBindings.Header.FunctionDeclaration
import HeaderBindings.Proofs.Header.BracketDepth
import HeaderBindings.Proofs.Text.Slice
import HeaderBindings.Proofs.Text.WordRun
import Mathlib.Data.List.Find

/-!
# The text of a function declaration

A function declaration is read up to the parenthesis that closes its argument
list.  The name is the word in front of the first parenthesis, and nothing
after the closing one has a part in what is read.
-/

namespace HeaderBindings.Header

open Text (isBlank isWord Occurrence)

variable {text before inside : List Char}

/-! ## The argument list -/

theorem toClosingParen?_append {depth : Nat} {list after : List Char}
    (closed : toClosingParen? depth text = some (list, after)) (more : List Char) :
    toClosingParen? depth (text ++ more) = some (list, after ++ more) := by
  rcases toClosingParen?_eq_some_iff.mp closed with ⟨rfl, steps⟩
  exact toClosingParen?_eq_some_iff.mpr ⟨by simp, steps⟩

/-- The argument list of a text is closed if the first parenthesis has its partner. -/
theorem argumentsClosed_iff {text : String} :
    argumentsClosed text = true ↔
      ∃ before inside list after, text.toList = before ++ '(' :: inside ∧ '(' ∉ before ∧
        toClosingParen? 0 inside = some (list, after) := by
  rw [argumentsClosed]
  constructor
  · intro closed
    split at closed
    · rename_i before inside isCut
      rcases Text.cut?_singleton_iff.mp isCut with ⟨split, absent⟩
      rcases Option.isSome_iff_exists.mp closed with ⟨⟨list, after⟩, found⟩
      exact ⟨before, inside, list, after, split, absent, found⟩
    · cases closed
  · rintro ⟨before, inside, list, after, split, absent, found⟩
    rw [Text.cut?_singleton_iff.mpr ⟨split, absent⟩]
    simp [found]

theorem argumentsClosed_append {front : String} (text : String) (absent : '(' ∉ front.toList) :
    argumentsClosed (front ++ text) = argumentsClosed text := by
  rw [Bool.eq_iff_iff, argumentsClosed_iff, argumentsClosed_iff]
  constructor
  · rintro ⟨before, inside, list, after, split, notBefore, found⟩
    rw [String.toList_append] at split
    rcases List.append_eq_append_iff.mp split with
      ⟨between, isBefore, isText⟩ | ⟨cut, isFront, isOpen⟩
    · refine ⟨between, inside, list, after, isText, ?_, found⟩
      exact fun member => notBefore (isBefore ▸ List.mem_append_right _ member)
    · cases cut with
      | nil => exact ⟨[], inside, list, after, isOpen.symm, List.not_mem_nil, found⟩
      | cons c cut =>
          cases isOpen
          exact absurd (by rw [isFront]; simp) absent
  · rintro ⟨before, inside, list, after, split, notBefore, found⟩
    refine ⟨front.toList ++ before, inside, list, after, ?_, ?_, found⟩
    · rw [String.toList_append, split, List.append_assoc]
    · rw [List.mem_append]
      exact fun member => member.elim absent notBefore

/-! ## The name -/

/-- The first parenthesis of a declaration follows a word, apart from blanks. -/
def parenFollowsName (declaration : String) : Bool :=
  match Text.cut? ['('] declaration.toList with
  | some (before, _) => (Text.occurrences before).any fun word => word.after.all isBlank
  | none => false

/-- The first parenthesis of a declaration with a closed argument list is the first one of any
longer text. -/
theorem parenFollowsName_append {declaration : String}
    (closed : argumentsClosed declaration = true) (more : String) :
    parenFollowsName (declaration ++ more) = parenFollowsName declaration := by
  rcases argumentsClosed_iff.mp closed with ⟨before, inside, _, _, split, absent, _⟩
  have longer : (declaration ++ more).toList = before ++ '(' :: (inside ++ more.toList) := by
    simp [split]
  rw [parenFollowsName, parenFollowsName, Text.cut?_singleton_iff.mpr ⟨split, absent⟩,
    Text.cut?_singleton_iff.mpr ⟨longer, absent⟩]

/-- A character behind an occurrence decides what follows it only if blanks lead up to it. -/
theorem next?_extend (word : Occurrence) {c : Char} (more : List Char)
    (notBlank : isBlank c = false) :
    (word.extend (c :: more)).next? =
      if word.after.all isBlank then some c else word.next? := by
  show ((word.after ++ c :: more).dropWhile isBlank).head? = _
  by_cases blank : word.after.all isBlank = true
  · rw [if_pos blank, List.dropWhile_append_of_pos (List.all_eq_true.mp blank)]
    simp [notBlank]
  · rw [if_neg blank, List.dropWhile_append]
    cases left : word.after.dropWhile isBlank with
    | nil => exact absurd (List.all_eq_true.mpr (List.dropWhile_eq_nil_iff.mp left)) blank
    | cons d rest => simp [Occurrence.next?, left]

/-- The first word run that is followed by a character is the one in front of the first such
character. -/
theorem find?_followed {run rest : List Char} {c : Char}
    (nonempty : run ≠ []) (isRun : ∀ d ∈ run, isWord d = true)
    (starts : before.getLast?.any isWord = false)
    (absent : c ∉ before) (notWord : isWord c = false)
    (next : (rest.dropWhile isBlank).head? = some c) :
    (Text.occurrences (before ++ (run ++ rest))).find? (fun word => word.next? == some c) =
      some ⟨before, run, rest⟩ := by
  -- blanks lead up to the character, so the run is whole
  have ends : rest.head?.any isWord = false := by
    cases rest with
    | nil => rfl
    | cons d rest =>
        show isWord d = false
        rw [Bool.eq_false_iff]
        intro isWordChar
        rw [List.dropWhile_cons_of_neg (by simp [Text.isBlank_of_isWord isWordChar])] at next
        exact Text.ne_of_isWord isWordChar notWord (Option.some.inj next)
  -- an earlier run is followed by something in front of this one, or by this one itself
  have notEarlier : ((Text.occurrences before).map (Occurrence.extend (run ++ rest))).find?
      (fun word => word.next? == some c) = none := by
    rw [List.find?_map, Option.map_eq_none_iff, List.find?_eq_none]
    intro word member
    cases run with
    | nil => exact absurd rfl nonempty
    | cons d run =>
        have isWordChar := isRun d List.mem_cons_self
        show ¬ ((word.extend (d :: (run ++ rest))).next? == some c) = true
        rw [next?_extend word _ (Text.isBlank_of_isWord isWordChar), beq_iff_eq]
        split
        · exact fun same => Text.ne_of_isWord isWordChar notWord (Option.some.inj same)
        · exact fun followed => absent (Text.mem_of_next? member followed)
  have here : (Occurrence.next? ⟨before, run, rest⟩ == some c) = true := by
    rw [beq_iff_eq]
    exact next
  rw [Text.occurrences_around nonempty isRun starts ends, List.find?_append, notEarlier,
    List.find?_cons, here]
  rfl

/-- The name of a declaration stands in front of its first parenthesis, whatever follows that. -/
theorem functionName?_paren
    (absent : '(' ∉ before)
    (named : (Text.occurrences before).any (fun word => word.after.all isBlank) = true) :
    ∃ word : Occurrence, word.after.all isBlank = true ∧
      ∀ inside, functionName? (.ofList (before ++ '(' :: inside)) =
        some (word.extend ('(' :: inside)) := by
  -- In front of the parenthesis no other one follows a word.
  have follows (word : Occurrence) (member : word ∈ Text.occurrences before)
      (inside : List Char) :
      ((word.extend ('(' :: inside)).next? == some '(') = word.after.all isBlank := by
    rw [next?_extend word inside (by decide)]
    by_cases blank : word.after.all isBlank = true
    · rw [if_pos blank, blank]
      rfl
    · rw [if_neg blank, Bool.eq_false_iff.mpr blank, beq_eq_false_iff_ne]
      intro next
      exact absent (Text.mem_of_next? member next)
  cases found : (Text.occurrences before).find? (fun word => word.after.all isBlank) with
  | none =>
      rw [List.find?_eq_none] at found
      rcases List.any_eq_true.mp named with ⟨word, member, blank⟩
      exact absurd blank (found word member)
  | some word =>
      refine ⟨word, by simpa using List.find?_some found, ?_⟩
      intro inside
      have joined : Text.occurrences (before ++ '(' :: inside) =
          (Text.occurrences before).map (Occurrence.extend ('(' :: inside)) ++
            Text.occurrencesFrom ([] ++ before) ('(' :: inside) :=
        Text.occurrencesFrom_append rfl
      have first : ((Text.occurrences before).map (Occurrence.extend ('(' :: inside))).find?
          (fun word => word.next? == some '(') = some (word.extend ('(' :: inside)) := by
        rw [List.find?_map]
        refine congrArg _ (Eq.trans (List.find?_congr ?_) found)
        exact fun word member => follows word member inside
      rw [functionName?, String.toList_ofList, joined, List.find?_append, first]
      rfl

/-! ## The whole declaration -/

/-- What follows a declaration with a closed argument list has no part in it. -/
theorem parseFunction_append
    {declaration : String} (owner : Class) (replacements : List (String × String))
    (closed : argumentsClosed declaration = true)
    (named : parenFollowsName declaration = true) (more : String) :
    parseFunction owner replacements (declaration ++ more) =
      parseFunction owner replacements declaration := by
  rcases argumentsClosed_iff.mp closed with ⟨before, inside, list, after, split, absent, found⟩
  rw [parenFollowsName, Text.cut?_singleton_iff.mpr ⟨split, absent⟩] at named
  rcases functionName?_paren absent named with ⟨word, blank, name⟩
  have shorter : declaration = .ofList (before ++ '(' :: inside) := by
    rw [← split, String.ofList_toList]
  have longer : declaration ++ more = .ofList (before ++ '(' :: (inside ++ more.toList)) := by
    apply String.toList_injective
    simp [split]
  -- The name ends where the argument list starts.
  have opened (inside : List Char) :
      ((word.extend ('(' :: inside)).after.dropWhile isBlank).tail = inside := by
    show ((word.after ++ '(' :: inside).dropWhile isBlank).tail = inside
    rw [List.dropWhile_append_of_pos (List.all_eq_true.mp blank)]
    rfl
  unfold parseFunction
  rw [longer, shorter, name, name]
  dsimp only
  rw [opened, opened, found, toClosingParen?_append found]
  rfl

end HeaderBindings.Header
