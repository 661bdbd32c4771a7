import HeaderBindings.Proofs.Text.Slice
import HeaderBindings.Text.Pascal
import Mathlib

/-!
# Pascal case of plain names

A name of ASCII letters, digits and underscores goes into pascal case character
by character: the underscores are dropped, a letter is a capital where a word
starts and after a digit that makes it a dimension mark, and all other letters
are small.  So two such names have one pascal case exactly if they have the same
characters, up to the underscores and to the case of the letters, and the same
letters are capitals.
-/

namespace HeaderBindings.Text

/-! ## ASCII characters -/

section Ascii

variable {c : Char}

/-- What is checked for all ASCII characters holds of each of them. -/
theorem of_ascii {p : Char → Prop} (each : ∀ n < 128, p (Char.ofNat n)) (ascii : c.toNat < 128) :
    p c := by
  have self := each c.toNat ascii
  rwa [Char.ofNat_toNat] at self

/-- A character of a plain name. -/
def isNameChar (c : Char) : Bool :=
  c.isAlphanum || c == '_'

/-- A character of a plain name without capitals. -/
def isSmallNameChar (c : Char) : Bool :=
  c.isLower || c.isDigit || c == '_'

theorem ascii_of_isNameChar (isName : isNameChar c = true) : c.toNat < 128 := by
  simp only [isNameChar, Char.isAlphanum, Char.isAlpha, Char.isUpper, Char.isLower, Char.isDigit,
    Bool.or_eq_true, decide_eq_true_eq, beq_iff_eq, ge_iff_le, UInt32.le_iff_toNat_le] at isName
  rcases isName with isAlphanum | rfl
  · simp at isAlphanum
    omega
  · decide

theorem isWord_of_isNameChar (isName : isNameChar c = true) : isWord c = true := by
  rw [isWord, if_pos (ascii_of_isNameChar isName)]
  exact isName

theorem isNameChar_toUpper (isName : isNameChar c = true) : isNameChar c.toUpper = true :=
  of_ascii (p := fun c => isNameChar c = true → isNameChar c.toUpper = true) (by decide)
    (ascii_of_isNameChar isName) isName

theorem isNameChar_of_isSmallNameChar (isSmall : isSmallNameChar c = true) :
    isNameChar c = true := by
  simp only [isSmallNameChar, isNameChar, Char.isAlphanum, Char.isAlpha, Bool.or_eq_true] at *
  tauto

theorem isSmallNameChar_toLower (isName : isNameChar c = true) :
    isSmallNameChar c.toLower = true :=
  of_ascii (p := fun c => isNameChar c = true → isSmallNameChar c.toLower = true) (by decide)
    (ascii_of_isNameChar isName) isName

theorem isNameChar_toLower (isName : isNameChar c = true) : isNameChar c.toLower = true :=
  isNameChar_of_isSmallNameChar (isSmallNameChar_toLower isName)

theorem small_of_isNameChar (isName : isNameChar c = true) : small c = [c.toLower] :=
  if_pos (ascii_of_isNameChar isName)

theorem capital_of_isNameChar (isName : isNameChar c = true) : capital c = [c.toUpper] :=
  if_pos (ascii_of_isNameChar isName)

/-- A capital letter is no `d`, and a digit is its own capital form. -/
theorem toUpper_of_isNameChar (isName : isNameChar c = true) :
    c.toUpper ≠ 'd' ∧ (c.toUpper = '2' ↔ c = '2') ∧ (c.toUpper = '3' ↔ c = '3') :=
  of_ascii (p := fun c => c.toUpper ≠ 'd' ∧ (c.toUpper = '2' ↔ c = '2') ∧
    (c.toUpper = '3' ↔ c = '3')) (by decide) (ascii_of_isNameChar isName)

/-- The small form of a character of a name keeps what is no letter. -/
structure KeptByToLower (c : Char) : Prop where
  gap : c.toLower = '_' ↔ c = '_'
  two : c.toLower = '2' ↔ c = '2'
  three : c.toLower = '3' ↔ c = '3'

theorem keptByToLower (isName : isNameChar c = true) : KeptByToLower c := by
  have ascii := ascii_of_isNameChar isName
  constructor
  · exact of_ascii (p := fun c => c.toLower = '_' ↔ c = '_') (by decide) ascii
  · exact of_ascii (p := fun c => c.toLower = '2' ↔ c = '2') (by decide) ascii
  · exact of_ascii (p := fun c => c.toLower = '3' ↔ c = '3') (by decide) ascii

theorem isDigit_toUpper (isName : isNameChar c = true) : c.toUpper.isDigit = c.isDigit :=
  of_ascii (p := fun c => c.toUpper.isDigit = c.isDigit) (by decide) (ascii_of_isNameChar isName)

theorem toUpper_eq_toLower (notLetter : c.isAlpha = false) : c.toUpper = c.toLower := by
  rcases Bool.or_eq_false_iff.mp notLetter with ⟨notUpper, notLower⟩
  rw [Char.toUpper_eq_of_not_isLower (Bool.eq_false_iff.mp notLower),
    Char.toLower_eq_of_not_isUpper (Bool.eq_false_iff.mp notUpper)]

/-- A small character of a plain name is uncased or small, and the underscore alone is no part of a
word. -/
structure SmallNameChar (c : Char) : Prop where
  notCapital : isUppercase c = false
  isGap : (!isAlphanumeric c) = (c == '_')
  toLower : c.toLower = c
  notSigma : c ≠ 'Σ'

theorem smallNameChar (isSmall : isSmallNameChar c = true) : SmallNameChar c := by
  have ascii := ascii_of_isNameChar (isNameChar_of_isSmallNameChar isSmall)
  constructor
  · exact of_ascii (p := fun c => isSmallNameChar c = true → isUppercase c = false) (by decide)
      ascii isSmall
  · exact of_ascii (p := fun c => isSmallNameChar c = true → (!isAlphanumeric c) = (c == '_'))
      (by decide) ascii isSmall
  · exact of_ascii (p := fun c => isSmallNameChar c = true → c.toLower = c) (by decide)
      ascii isSmall
  · rintro rfl
    exact absurd isSmall (by decide)

end Ascii

/-! ## Small names -/

theorem smallAfter_of_name {before text : List Char}
    (isName : ∀ c ∈ text, isNameChar c = true) : smallAfter before text = text.map Char.toLower := by
  induction text generalizing before with
  | nil => rfl
  | cons c rest ih =>
      have first := isName c List.mem_cons_self
      have notSigma : c ≠ 'Σ' := by
        rintro rfl
        exact absurd first (by decide)
      rw [smallAfter, ih fun d member => isName d (List.mem_cons_of_mem _ member)]
      simp only [notSigma, if_false, small_of_isNameChar first]
      rfl

/-! ## Words -/

section Words

variable {text piece : List Char}

theorem after_ne_upper {mode : LetterMode} {c : Char} (notUpper : mode ≠ .upper)
    (notCapital : isUppercase c = false) : mode.after c ≠ .upper := by
  rw [LetterMode.after, notCapital]
  split
  · exact fun impossible => nomatch impossible
  · exact notUpper

/-- A piece without capitals is one word. -/
theorem wordsOfPiece_of_small {mode : LetterMode} {current : List Char} (notUpper : mode ≠ .upper)
    (isSmall : ∀ c ∈ piece, isUppercase c = false) :
    wordsOfPiece mode current piece =
      if current = [] ∧ piece = [] then [] else [current.reverse ++ piece] := by
  induction piece generalizing mode current with
  | nil => simp [wordsOfPiece]
  | cons c rest ih =>
      rcases List.forall_mem_cons.mp isSmall with ⟨first, others⟩
      cases rest with
      | nil => simp [wordsOfPiece]
      | cons next rest =>
          have nextSmall : isUppercase next = false := others next List.mem_cons_self
          have later := @ih (mode.after c) (c :: current) (after_ne_upper notUpper first) others
          rw [wordsOfPiece, nextSmall, first]
          simpa [notUpper] using later

/-- A word with a capital first letter. -/
def capitalFirst : List Char → List Char
  | [] => []
  | c :: rest => c.toUpper :: rest

theorem smallRest_of_small (isSmall : ∀ c ∈ text, isSmallNameChar c = true) :
    smallRest text = text := by
  induction text with
  | nil => rfl
  | cons c rest ih =>
      rcases List.forall_mem_cons.mp isSmall with ⟨first, others⟩
      have isName := isNameChar_of_isSmallNameChar first
      rw [smallRest, ih others, small_of_isNameChar isName, (smallNameChar first).toLower]
      · rfl
      · intro isSigma _
        exact (smallNameChar first).notSigma isSigma

theorem capitalized_of_small (isSmall : ∀ c ∈ text, isSmallNameChar c = true) :
    capitalized text = capitalFirst text := by
  cases text with
  | nil => rfl
  | cons c rest =>
      rcases List.forall_mem_cons.mp isSmall with ⟨first, others⟩
      rw [capitalized, smallRest_of_small others,
        capital_of_isNameChar (isNameChar_of_isSmallNameChar first)]
      rfl

/-- The words of a piece, put together. -/
theorem capitalized_wordsOfPiece (isSmall : ∀ c ∈ piece, isSmallNameChar c = true) :
    (wordsOfPiece .boundary [] piece).flatMap capitalized = capitalFirst piece := by
  rw [wordsOfPiece_of_small (by decide) fun c member => (smallNameChar (isSmall c member)).notCapital]
  cases piece with
  | nil => rfl
  | cons c rest =>
      rw [if_neg (by simp), List.flatMap_singleton]
      exact capitalized_of_small isSmall

/-- A small name without its underscores, with capital letters after them and possibly first. -/
def joined : Bool → List Char → List Char
  | _, [] => []
  | starts, c :: rest =>
    if c = '_' then joined true rest
    else (if starts then c.toUpper else c) :: joined false rest

/-- The pieces between underscores, put together with the first one as it is or capitalized. -/
theorem capitalFirst_pieces (text : List Char) :
    ∃ first others, text.splitOnP (· == '_') = first :: others ∧
      joined false text = first ++ others.flatMap capitalFirst ∧
      joined true text = capitalFirst first ++ others.flatMap capitalFirst := by
  induction text with
  | nil => exact ⟨[], [], rfl, rfl, rfl⟩
  | cons c rest ih =>
      rcases ih with ⟨first, others, pieces, inside, start⟩
      rw [List.splitOnP_cons_eq_if_modifyHead, pieces]
      by_cases isGap : c = '_'
      · refine ⟨[], first :: others, by simp [isGap], ?_, ?_⟩
        · rw [joined, if_pos isGap, start]
          rfl
        · rw [joined, if_pos isGap, start]
          rfl
      · refine ⟨c :: first, others, by simp [isGap], ?_, ?_⟩
        · rw [joined, if_neg isGap, inside]
          rfl
        · rw [joined, if_neg isGap, inside]
          rfl

theorem mem_of_mem_splitOnP {separates : Char → Bool} (inPieces : piece ∈ text.splitOnP separates)
    {c : Char} (member : c ∈ piece) : c ∈ text := by
  induction text generalizing piece with
  | nil =>
      rw [List.splitOnP_nil, List.mem_singleton] at inPieces
      rwa [inPieces] at member
  | cons d rest ih =>
      rw [List.splitOnP_cons_eq_if_modifyHead] at inPieces
      split at inPieces
      · rcases List.mem_cons.mp inPieces with rfl | later
        · cases member
        · exact List.mem_cons_of_mem _ (ih later member)
      · cases pieces : rest.splitOnP separates with
        | nil => exact absurd pieces (List.splitOnP_ne_nil _ _)
        | cons first others =>
            rw [pieces] at inPieces ih
            rcases List.mem_cons.mp inPieces with rfl | later
            · rcases List.mem_cons.mp member with rfl | inFirst
              · exact List.mem_cons_self
              · exact List.mem_cons_of_mem _ (ih List.mem_cons_self inFirst)
            · exact List.mem_cons_of_mem _ (ih (List.mem_cons_of_mem _ later) member)

theorem splitOnP_congr {separates others : Char → Bool}
    (same : ∀ c ∈ text, separates c = others c) : text.splitOnP separates = text.splitOnP others := by
  induction text with
  | nil => rfl
  | cons c rest ih =>
      rcases List.forall_mem_cons.mp same with ⟨first, later⟩
      rw [List.splitOnP_cons_eq_if_modifyHead, List.splitOnP_cons_eq_if_modifyHead, first, ih later]

/-- The capitalized words of a small name. -/
theorem capitalized_nameWords (isSmall : ∀ c ∈ text, isSmallNameChar c = true) :
    (nameWords text).flatMap capitalized = joined true text := by
  have gaps : text.splitOnP (fun c => !isAlphanumeric c) = text.splitOnP (· == '_') :=
    splitOnP_congr fun c member => (smallNameChar (isSmall c member)).isGap
  rcases capitalFirst_pieces text with ⟨first, others, pieces, _, start⟩
  rw [nameWords, gaps, List.flatMap_assoc, start]
  have whole : ∀ piece ∈ text.splitOnP (· == '_'),
      (wordsOfPiece .boundary [] piece).flatMap capitalized = capitalFirst piece :=
    fun piece inPieces => capitalized_wordsOfPiece fun c member =>
      isSmall c (mem_of_mem_splitOnP inPieces member)
  rw [List.flatMap_congr whole, pieces]
  rfl

end Words

/-! ## Dimension marks -/

section Marks

variable {text : List Char} {digit : Char}

/-- A text in which a `d` after a digit is a capital. -/
def raised (digit : Char) : Option Char → List Char → List Char
  | _, [] => []
  | previous, c :: rest =>
    (if previous = some digit ∧ c = 'd' then 'D' else c) :: raised digit (some c) rest

/-- Replacing a mark raises its `d`, since one mark never ends where another one starts. -/
theorem replaceFrom_mark (notLetter : digit ≠ 'd') :
    ∀ (text : List Char) (previous : Option Char),
      (previous = some digit → text.head? ≠ some 'd') →
      replaceFrom [digit, 'd'] [digit, 'D'] 0 text = raised digit previous text
  | [], _, _ => rfl
  | c :: rest, previous, free => by
      have kept : (if previous = some digit ∧ c = 'd' then 'D' else c) = c := by
        refine if_neg fun ⟨isDigit, isLetter⟩ => free isDigit ?_
        rw [isLetter, List.head?_cons]
      rw [raised, kept, replaceFrom]
      cases rest with
      | nil =>
          have alone : [digit, 'd'].isPrefixOf [c] = false := by simp [List.isPrefixOf]
          rw [alone, if_neg (by decide), replaceFrom, raised]
      | cons next rest =>
          by_cases mark : c = digit ∧ next = 'd'
          · rcases mark with ⟨isDigit, rfl⟩
            have after := replaceFrom_mark notLetter rest (some 'd')
              fun same => absurd (Option.some.inj same).symm notLetter
            rw [isDigit, if_pos (by simp [List.isPrefixOf]), raised, if_pos ⟨rfl, rfl⟩, ← after]
            rfl
          · have after := replaceFrom_mark notLetter (next :: rest) (some c) fun isDigit isLetter =>
              mark ⟨Option.some.inj isDigit, Option.some.inj isLetter⟩
            have noMark : [digit, 'd'].isPrefixOf (c :: next :: rest) = false := by
              rw [Bool.eq_false_iff, ne_eq, List.isPrefixOf_iff_prefix, List.cons_prefix_cons,
                List.cons_prefix_cons]
              rintro ⟨isDigit, isLetter, _⟩
              exact mark ⟨isDigit.symm, isLetter.symm⟩
            rw [noMark, if_neg (by decide), after]

theorem replaceAll_mark (notLetter : digit ≠ 'd') (text : List Char) :
    replaceAll (String.ofList text) (String.ofList [digit, 'd']) (String.ofList [digit, 'D']) =
      String.ofList (raised digit none text) := by
  rw [replaceAll, String.toList_ofList, String.toList_ofList, String.toList_ofList,
    replaceFrom_mark notLetter text none fun impossible => nomatch impossible]

end Marks

/-! ## Names -/

section Names

variable {text : List Char}

/-- Whether a character in a name starts a word or follows a digit that makes it a dimension mark. -/
def isRaised (previous : Option Char) (c : Char) : Bool :=
  match previous with
  | none => true
  | some digit => (digit == '2' || digit == '3') && c.toLower == 'd'

/-- A name in pascal case, read character by character: `previous` is the character before, if no
underscore is. -/
def pascalChars : Option Char → List Char → List Char
  | _, [] => []
  | previous, c :: rest =>
    if c = '_' then pascalChars none rest
    else (if isRaised previous c then c.toUpper else c.toLower) :: pascalChars (some c) rest

/-- The dimension marks of a small name whose words are capitalized. -/
theorem raised_joined (isSmall : ∀ c ∈ text, isSmallNameChar c = true)
    (previous second third : Option Char)
    (follows : ∀ c, previous = some c →
      (second = some '2' ↔ c = '2') ∧ (third = some '3' ↔ c = '3')) :
    raised '3' third (raised '2' second (joined previous.isNone text)) =
      pascalChars previous text := by
  induction text generalizing previous second third with
  | nil => rfl
  | cons c rest ih =>
      rcases List.forall_mem_cons.mp isSmall with ⟨first, others⟩
      rw [joined, pascalChars]
      by_cases isGap : c = '_'
      · rw [if_pos isGap, if_pos isGap]
        exact ih others none second third fun c impossible => nomatch impossible
      · rw [if_neg isGap, if_neg isGap, raised, raised]
        rcases toUpper_of_isNameChar (isNameChar_of_isSmallNameChar first) with
          ⟨notLetter, isTwo, isThree⟩
        cases previous with
        | none =>
            have later := ih others (some c) (some c.toUpper) (some c.toUpper) fun d equal => by
              cases equal
              simp [isTwo, isThree]
            simpa [isRaised, notLetter] using later
        | some d =>
            rcases follows d rfl with ⟨afterTwo, afterThree⟩
            have later := ih others (some c) (some c)
              (some (if second = some '2' ∧ c = 'd' then 'D' else c)) fun e equal => by
                cases equal
                refine ⟨by simp, ?_⟩
                split
                · rename_i mark
                  simp [mark.2]
                · simp
            have same : (if third = some '3' ∧ (if second = some '2' ∧ c = 'd' then 'D' else c) = 'd'
                then 'D' else if second = some '2' ∧ c = 'd' then 'D' else c) =
                if isRaised (some d) c then c.toUpper else c.toLower := by
              rw [isRaised, (smallNameChar first).toLower]
              by_cases isLetter : c = 'd'
              · rw [isLetter]
                by_cases two : d = '2'
                · simp [two, afterTwo.mpr two]
                · by_cases three : d = '3'
                  · simp [three, afterTwo, afterThree]
                  · simp [two, three, afterTwo, afterThree]
              · simp [isLetter]
            simp only [Option.isNone_some, Bool.false_eq_true, if_false, same]
            exact congrArg _ later

theorem isRaised_map_toLower {previous : Option Char} {c : Char}
    (before : ∀ d ∈ previous, isNameChar d = true) :
    isRaised (previous.map Char.toLower) c.toLower = isRaised previous c := by
  cases previous with
  | none => rfl
  | some d =>
      have kept := keptByToLower (before d rfl)
      rw [Option.map_some, isRaised, isRaised, Char.toLower_toLower_eq_toLower, Bool.eq_iff_iff]
      simp only [Bool.and_eq_true, Bool.or_eq_true, beq_iff_eq, kept.two, kept.three]

theorem pascalChars_map_toLower (isName : ∀ c ∈ text, isNameChar c = true)
    {previous : Option Char} (before : ∀ c ∈ previous, isNameChar c = true) :
    pascalChars (previous.map Char.toLower) (text.map Char.toLower) =
      pascalChars previous text := by
  induction text generalizing previous with
  | nil => rfl
  | cons c rest ih =>
      rcases List.forall_mem_cons.mp isName with ⟨first, others⟩
      have kept := keptByToLower first
      rw [List.map_cons, pascalChars, pascalChars, isRaised_map_toLower before,
        Char.toUpper_toLower_eq_toUpper, Char.toLower_toLower_eq_toLower]
      by_cases isGap : c = '_'
      · rw [if_pos (kept.gap.mpr isGap), if_pos isGap]
        exact @ih others none fun d impossible => nomatch impossible
      · rw [if_neg (mt kept.gap.mp isGap), if_neg isGap]
        refine congrArg _ (@ih others (some c) fun d equal => ?_)
        rw [Option.mem_some_iff.mp equal] at first
        exact first

/-- The pascal case of the small form of a plain name. -/
theorem pascal_lowercase {name : String} (isName : ∀ c ∈ name.toList, isNameChar c = true) :
    pascal (lowercase name) = String.ofList (pascalChars none name.toList) := by
  have isSmall : ∀ c ∈ name.toList.map Char.toLower, isSmallNameChar c = true := by
    intro c member
    rcases List.mem_map.mp member with ⟨d, inName, rfl⟩
    exact isSmallNameChar_toLower (isName d inName)
  have unmarked := raised_joined isSmall none none none fun c impossible => nomatch impossible
  rw [pascal, lowercase, String.toList_ofList, smallAfter_of_name isName,
    capitalized_nameWords isSmall]
  show replaceAll (replaceAll _ (String.ofList ['2', 'd']) (String.ofList ['2', 'D']))
    (String.ofList ['3', 'd']) (String.ofList ['3', 'D']) = _
  rw [replaceAll_mark (by decide), replaceAll_mark (by decide)]
  refine congrArg String.ofList (unmarked.trans ?_)
  exact @pascalChars_map_toLower _ isName none fun c impossible => nomatch impossible

/-! ### What is left of a name -/

/-- The characters of a name other than underscores in their small form, each with whether it is
left as a capital letter. -/
def letterMarks : Option Char → List Char → List (Char × Bool)
  | _, [] => []
  | previous, c :: rest =>
    if c = '_' then letterMarks none rest
    else (c.toLower, isRaised previous c && c.isAlpha) :: letterMarks (some c) rest

theorem letterMarks_eq (previous : Option Char) (text : List Char) :
    letterMarks previous text = (pascalChars previous text).map fun c => (c.toLower, c.isUpper) := by
  induction text generalizing previous with
  | nil => rfl
  | cons c rest ih =>
      rw [letterMarks, pascalChars, ih, ih]
      by_cases isGap : c = '_'
      · rw [if_pos isGap, if_pos isGap]
      · rw [if_neg isGap, if_neg isGap, List.map_cons]
        cases isRaised previous c with
        | true =>
            rw [if_pos rfl, Char.toLower_toUpper_eq_toLower, Char.isUpper_toUpper_eq_isAlpha]
            rfl
        | false =>
            rw [if_neg Bool.false_ne_true, Char.toLower_toLower_eq_toLower,
              Char.isUpper_toLower_eq_false]
            rfl

theorem pascalChars_eq (previous : Option Char) (text : List Char) :
    pascalChars previous text =
      (letterMarks previous text).map fun mark => if mark.2 then mark.1.toUpper else mark.1 := by
  induction text generalizing previous with
  | nil => rfl
  | cons c rest ih =>
      rw [letterMarks, pascalChars, ih, ih]
      by_cases isGap : c = '_'
      · rw [if_pos isGap, if_pos isGap]
      · rw [if_neg isGap, if_neg isGap, List.map_cons]
        cases isLetter : c.isAlpha with
        | true => simp
        | false => simp [toUpper_eq_toLower isLetter]

/-- Two names have one pascal case exactly if the same is left of them. -/
theorem pascalChars_eq_iff {other : List Char} :
    pascalChars none text = pascalChars none other ↔ letterMarks none text = letterMarks none other := by
  constructor
  · intro same
    rw [letterMarks_eq, letterMarks_eq, same]
  · intro same
    rw [pascalChars_eq, pascalChars_eq, same]

theorem isNameChar_of_mem_pascalChars (isName : ∀ c ∈ text, isNameChar c = true)
    {previous : Option Char} : ∀ c ∈ pascalChars previous text, isNameChar c = true := by
  induction text generalizing previous with
  | nil => exact fun c impossible => nomatch impossible
  | cons c rest ih =>
      rcases List.forall_mem_cons.mp isName with ⟨first, others⟩
      rw [pascalChars]
      split
      · exact ih others
      · refine List.forall_mem_cons.mpr ⟨?_, ih others⟩
        split
        · exact isNameChar_toUpper first
        · exact isNameChar_toLower first

/-- The first character of a name in pascal case is the first one that is no underscore. -/
theorem head?_pascalChars (text : List Char) :
    (pascalChars none text).head? = (text.dropWhile (· == '_')).head?.map Char.toUpper := by
  induction text with
  | nil => rfl
  | cons c rest ih =>
      rw [pascalChars, List.dropWhile_cons]
      by_cases isGap : c = '_'
      · rw [if_pos isGap, if_pos (beq_iff_eq.mpr isGap), ih]
      · rw [if_neg isGap, beq_eq_false_iff_ne.mpr isGap]
        rfl

end Names

end HeaderBindings.Text
