import HeaderBindings.Proofs.Binding.NumberSyntax
import Mathlib.Data.Bool.AllAny
import Mathlib.Data.List.Induction
import Mathlib.Data.List.TakeWhile

/-!
# Numbers read part by part

The digits of a literal are read up to the first character that is no digit, so
a literal is read part by part as long as the part that follows starts with
something else.
-/

namespace HeaderBindings.Managed

/-! ## Digits -/

section Digits

variable {isDigit : Char → Bool} {text : List Char}

theorem Quoted.isDigit_or_quote (isQuoted : Quoted isDigit text) :
    ∀ c ∈ text, isDigit c = true ∨ c = '\'' := by
  induction isQuoted with
  | last digit =>
      intro c member
      rw [List.mem_singleton.mp member]
      exact Or.inl digit
  | digit digit _ ih =>
      intro c member
      rcases List.mem_cons.mp member with rfl | later
      · exact Or.inl digit
      · exact ih c later
  | quote digit _ ih =>
      intro c member
      rcases List.mem_cons.mp member with rfl | member
      · exact Or.inl digit
      rcases List.mem_cons.mp member with rfl | later
      · exact Or.inr rfl
      · exact ih c later

theorem Quoted.exists_cons (isQuoted : Quoted isDigit text) :
    ∃ c rest, text = c :: rest ∧ isDigit c = true := by
  cases isQuoted with
  | last digit => exact ⟨_, _, rfl, digit⟩
  | digit digit _ => exact ⟨_, _, rfl, digit⟩
  | quote digit _ => exact ⟨_, _, rfl, digit⟩

theorem unquoted_eq_self (noQuote : '\'' ∉ text) : unquoted text = text := by
  rw [unquoted, List.filter_eq_self]
  intro c member
  simpa using fun same : c = '\'' => noQuote (same ▸ member)

/-- Without quotes there are digits alone. -/
structure AllDigits (isDigit : Char → Bool) (text : List Char) : Prop where
  nonempty : text ≠ []
  digits : ∀ c ∈ text, isDigit c = true

theorem Quoted.allDigits (isQuoted : Quoted isDigit text) (noQuote : '\'' ∉ text) :
    AllDigits isDigit text where
  nonempty := by
    rcases isQuoted.exists_cons with ⟨c, rest, rfl, _⟩
    exact List.cons_ne_nil c rest
  digits c member := by
    rcases isQuoted.isDigit_or_quote c member with digit | rfl
    · exact digit
    · exact absurd member noQuote

/-- The digits of a text are read up to a character that is none. -/
theorem spanDigits {digits rest : List Char} (all : ∀ c ∈ digits, isDigit c = true)
    (ends : ∀ c ∈ rest.head?, isSpacedDigit isDigit c = false) :
    (digits ++ rest).takeWhile (isSpacedDigit isDigit) = digits ∧
      (digits ++ rest).dropWhile (isSpacedDigit isDigit) = rest := by
  have spaced : ∀ c ∈ digits, isSpacedDigit isDigit c = true := by
    intro c member
    rw [isSpacedDigit, all c member, Bool.true_or]
  have stops : rest.takeWhile (isSpacedDigit isDigit) = [] ∧
      rest.dropWhile (isSpacedDigit isDigit) = rest := by
    cases rest with
    | nil => exact ⟨rfl, rfl⟩
    | cons c rest => simp [ends c rfl]
  rw [List.takeWhile_append_of_pos spaced, List.dropWhile_append_of_pos spaced, stops.1, stops.2,
    List.append_nil]
  exact ⟨rfl, rfl⟩

theorem filter_digits {digits : List Char} (all : ∀ c ∈ digits, isDigit c = true) :
    digits.filter isDigit = digits :=
  List.filter_eq_self.mpr all

theorem AllDigits.starts {digits : List Char} (all : AllDigits isDigit digits) (rest : List Char) :
    ∀ c ∈ (digits ++ rest).head?, isDigit c = true := by
  rcases List.exists_cons_of_ne_nil all.nonempty with ⟨d, later, split⟩
  rw [split]
  rintro _ ⟨⟩
  exact all.digits d (by simp [split])

theorem AllDigits.isDigitSequence {digits : List Char} (all : AllDigits Char.isDigit digits) :
    isDigitSequence digits = true := by
  rw [Managed.isDigitSequence, List.head?_eq_some_head all.nonempty,
    List.getLast?_eq_some_getLast all.nonempty, Option.any_some, Option.any_some,
    all.digits _ (List.head_mem _), all.digits _ (List.getLast_mem _)]
  rfl

end Digits

/-! ## Integers -/

section Integers

variable {base : Nat} {isDigit : Char → Bool} {digits suffix : List Char}

theorem digitsNumber?_append (all : AllDigits isDigit digits)
    (ends : ∀ c ∈ suffix.head?, isSpacedDigit isDigit c = false) :
    digitsNumber? base isDigit (digits ++ suffix) =
      if integerSuffixes.contains suffix && Text.numberOf base digits < 2 ^ 64 then
        some (Text.numberOf base digits : ℚ)
      else
        none := by
  rcases spanDigits all.digits ends with ⟨taken, dropped⟩
  rw [digitsNumber?, taken, dropped, filter_digits all.digits,
    List.getLast?_eq_some_getLast all.nonempty, Option.any_some,
    all.digits _ (List.getLast_mem _), Bool.true_and]

/-- Digits without a suffix are a literal if their number is not too large. -/
theorem digitsNumber?_digits (all : AllDigits isDigit digits)
    (fits : Text.numberOf base digits < 2 ^ 64) :
    digitsNumber? base isDigit digits = some (Text.numberOf base digits : ℚ) := by
  have noEnd : ∀ c ∈ ([] : List Char).head?, isSpacedDigit isDigit c = false := by simp
  have noSuffix : integerSuffixes.contains [] = true := by decide
  rw [← List.append_nil digits, digitsNumber?_append all noEnd, noSuffix, List.append_nil,
    Bool.true_and, if_pos (decide_eq_true fits)]

/-- Digits with another suffix are no integer literal. -/
theorem digitsNumber?_eq_none (all : AllDigits isDigit digits)
    (ends : ∀ c ∈ suffix.head?, isSpacedDigit isDigit c = false)
    (unknown : suffix ∉ integerSuffixes) :
    digitsNumber? base isDigit (digits ++ suffix) = none := by
  have notSuffix : integerSuffixes.contains suffix = false := by simpa using unknown
  rw [digitsNumber?_append all ends, notSuffix, Bool.false_and, if_neg Bool.false_ne_true]

/-- A text that starts with a digit has a prefix only if it has the letter of one. -/
theorem integerNumber?_decimal {text : List Char}
    (starts : ∀ c ∈ text.head?, c.isDigit = true)
    (noMark : ∀ c ∈ text, c ∉ ['x', 'X', 'b', 'B']) (nonempty : text ≠ []) :
    integerNumber? text = digitsNumber? 10 Char.isDigit text := by
  unfold integerNumber?
  split
  · rename_i mark rest
    have unmarked := noMark mark (by simp)
    simp only [List.mem_cons, List.not_mem_nil, or_false, not_or] at unmarked
    rw [if_neg (by simp [unmarked]), if_neg (by simp [unmarked])]
  · rw [if_pos (starts _ rfl)]
  · exact absurd rfl nonempty

end Integers

/-! ## Real numbers -/

theorem mem_signs {sign : List Char} : sign ∈ signs ↔ sign = [] ∨ sign = ['-'] ∨ sign = ['+'] := by
  simp [signs]

section Reals

variable {rest : List Char}

theorem readExponentDigits?_append {digits : List Char} (all : AllDigits Char.isDigit digits)
    (ends : ∀ c ∈ rest.head?, isSpacedDigit Char.isDigit c = false) :
    readExponentDigits? (digits ++ rest) = some (Text.numberOf 10 digits, rest) := by
  rcases spanDigits all.digits ends with ⟨taken, dropped⟩
  rw [readExponentDigits?, taken, dropped, filter_digits all.digits, all.isDigitSequence]
  rfl

theorem readSign_append {sign digits : List Char} (isSign : sign ∈ signs)
    (starts : ∀ c ∈ digits.head?, c.isDigit = true) :
    readSign (sign ++ digits) = (decide (sign = ['-']), digits) := by
  rcases mem_signs.mp isSign with rfl | rfl | rfl
  · rw [List.nil_append]
    unfold readSign
    split
    · exact absurd (starts '-' rfl) (by decide)
    · exact absurd (starts '+' rfl) (by decide)
    · rfl
  · rfl
  · rfl

theorem readExponent?_chars (exponent : Exponent) (noQuote : '\'' ∉ exponent.digits)
    (ends : ∀ c ∈ rest.head?, isSpacedDigit Char.isDigit c = false) :
    readExponent? (exponent.chars ++ rest) = some (exponent.value, rest) := by
  have all := exponent.isQuoted.allDigits noQuote
  have isMark : (if exponent.capital then 'E' else 'e') = 'e' ∨
      (if exponent.capital then 'E' else 'e') = 'E' := by
    cases exponent.capital <;> simp
  rw [Exponent.chars, List.cons_append, readExponent?, if_pos isMark, List.append_assoc,
    readSign_append exponent.isSign (all.starts rest)]
  simp [readExponentDigits?_append all ends, Exponent.value, unquoted_eq_self noQuote]

theorem readExponent?_none (noMark : ∀ c ∈ rest.head?, c ≠ 'e' ∧ c ≠ 'E') :
    readExponent? rest = some (0, rest) := by
  cases rest with
  | nil => rfl
  | cons c rest => rw [readExponent?, if_neg (by simpa using noMark c rfl)]

/-- A fraction is read up to a character that is no digit. -/
theorem readFraction_append {fraction : Option (List Char)}
    (digits : ∀ part ∈ fraction, ∀ c ∈ part, c.isDigit = true)
    (ends : ∀ c ∈ rest.head?, isSpacedDigit Char.isDigit c = false ∧ c ≠ '.') :
    readFraction ((fraction.map ('.' :: ·)).getD [] ++ rest) = (fraction, rest) := by
  cases fraction with
  | none =>
      rw [Option.map_none, Option.getD_none, List.nil_append]
      unfold readFraction
      split
      · exact absurd rfl (ends '.' rfl).2
      · rfl
  | some part =>
      rcases spanDigits (digits part rfl) fun c first => (ends c first).1 with ⟨taken, dropped⟩
      rw [Option.map_some, Option.getD_some, List.cons_append, readFraction, taken, dropped]

/-- Digits by themselves are no real literal, digits with the mark of single precision are one. -/
theorem realNumber?_digits {digits mark : List Char} (all : AllDigits Char.isDigit digits)
    (isMark : mark = [] ∨ mark = ['f']) :
    realNumber? (digits ++ mark) =
      if mark = ['f'] ∧ (Text.numberOf 10 digits : ℚ) < singleLimit then
        some (Text.numberOf 10 digits : ℚ)
      else
        none := by
  have whole : decimalNumber digits [] 0 = Text.numberOf 10 digits := by simp [decimalNumber]
  have ends : ∀ c ∈ mark.head?, isSpacedDigit Char.isDigit c = false := by
    rcases isMark with rfl | rfl
    · simp
    · rintro _ ⟨⟩
      decide
  rcases spanDigits all.digits ends with ⟨taken, dropped⟩
  rw [realNumber?, taken, dropped]
  rcases isMark with rfl | rfl
  · rfl
  · have read : readExponent? ['f'] = some (0, ['f']) := by decide
    have limit : realLimit? ['f'] = some singleLimit := rfl
    simp [readFraction, all.isDigitSequence, read, limit, filter_digits all.digits, whole]

end Reals

section Literals

variable {digits mark : List Char}

/-- Decimal digits, with the mark of single precision or without it. -/
theorem literalNumber?_digits (all : AllDigits Char.isDigit digits)
    (isMark : mark = [] ∨ mark = ['f']) :
    literalNumber? (digits ++ mark) =
      if (Text.numberOf 10 digits : ℚ) < if mark = [] then 2 ^ 64 else singleLimit then
        some (Text.numberOf 10 digits : ℚ)
      else
        none := by
  have decimal : integerNumber? (digits ++ mark) =
      digitsNumber? 10 Char.isDigit (digits ++ mark) := by
    apply integerNumber?_decimal (all.starts mark)
    · intro c member isMarkChar
      rcases List.mem_append.mp member with inDigits | inMark
      · have letters : ∀ c ∈ ['x', 'X', 'b', 'B'], c.isDigit = false :=
          List.all_iff_forall_prop.mp (by decide)
        have digit := all.digits c inDigits
        rw [letters c isMarkChar] at digit
        cases digit
      · rcases isMark with rfl | rfl
        · cases inMark
        · rw [List.mem_singleton.mp inMark] at isMarkChar
          exact absurd isMarkChar (by decide)
    · simp [all.nonempty]
  rw [literalNumber?, decimal, realNumber?_digits all isMark]
  rcases isMark with rfl | rfl
  · have noEnd : ∀ c ∈ ([] : List Char).head?, isSpacedDigit Char.isDigit c = false := by simp
    have noSuffix : integerSuffixes.contains [] = true := by decide
    rw [digitsNumber?_append all noEnd, noSuffix, Bool.true_and, if_pos rfl]
    by_cases fits : Text.numberOf 10 digits < 2 ^ 64
    · have small : (Text.numberOf 10 digits : ℚ) < 2 ^ 64 := by exact_mod_cast fits
      rw [if_pos (decide_eq_true fits), if_pos small]
      rfl
    · have large : ¬ (Text.numberOf 10 digits : ℚ) < 2 ^ 64 := by exact_mod_cast fits
      rw [if_neg (by simpa only [decide_eq_true_eq] using fits), if_neg large,
        if_neg fun both => absurd both.1 (by simp)]
      rfl
  · have noEnd : ∀ c ∈ ['f'].head?, isSpacedDigit Char.isDigit c = false := by
      rintro _ ⟨⟩
      decide
    rw [digitsNumber?_eq_none all noEnd (by decide)]
    simp

example : literalNumber? "010".toList = some 10 := by decide +kernel

end Literals

/-! ## The characters of a literal -/

/-- A character that a literal of C# can have. -/
def isLiteralChar (c : Char) : Bool :=
  Text.isHexDigit c ||
    ['_', 'x', 'X', '.', '+', '-', 'u', 'U', 'l', 'L', 'm', 'M'].contains c

section Characters

variable {text : List Char} {number : ℚ}

theorem isLiteralChar_of_isSpacedDigit {isDigit : Char → Bool} {c : Char}
    (digits : ∀ c, isDigit c = true → Text.isHexDigit c = true)
    (spaced : isSpacedDigit isDigit c = true) : isLiteralChar c = true := by
  rcases Bool.or_eq_true_iff.mp spaced with digit | underscore
  · rw [isLiteralChar, digits c digit, Bool.true_or]
  · rw [beq_iff_eq.mp underscore]
    rfl

theorem isHexDigit_of_isDigit (c : Char) (digit : c.isDigit = true) : Text.isHexDigit c = true := by
  rw [Text.isHexDigit, digit, Bool.true_or, Bool.true_or]

theorem isHexDigit_of_isBinaryDigit (c : Char) (digit : isBinaryDigit c = true) :
    Text.isHexDigit c = true := by
  rw [isBinaryDigit, Bool.or_eq_true, beq_iff_eq, beq_iff_eq] at digit
  rcases digit with rfl | rfl <;> rfl

/-- What holds of the characters of a class and behind them holds of all characters. -/
theorem forall_mem_of_dropWhile {inClass : Char → Bool} {p : Char → Prop}
    (front : ∀ c, inClass c = true → p c) (rest : ∀ c ∈ text.dropWhile inClass, p c) :
    ∀ c ∈ text, p c := by
  intro c member
  rw [← @List.takeWhile_append_dropWhile _ inClass text] at member
  rcases List.mem_append.mp member with inFront | inRest
  · exact front c (List.mem_takeWhile_imp inFront)
  · exact rest c inRest

/-- Digits and what stands behind them. -/
theorem isLiteralChar_of_dropWhile {isDigit : Char → Bool}
    (digits : ∀ c, isDigit c = true → Text.isHexDigit c = true)
    (rest : ∀ c ∈ text.dropWhile (isSpacedDigit isDigit), isLiteralChar c = true) :
    ∀ c ∈ text, isLiteralChar c = true :=
  forall_mem_of_dropWhile (fun _ => isLiteralChar_of_isSpacedDigit digits) rest

theorem isLiteralChar_of_digitsNumber? {base : Nat} {isDigit : Char → Bool}
    (digits : ∀ c, isDigit c = true → Text.isHexDigit c = true)
    (read : digitsNumber? base isDigit text = some number) :
    ∀ c ∈ text, isLiteralChar c = true := by
  apply isLiteralChar_of_dropWhile digits
  rw [digitsNumber?] at read
  split at read
  · rename_i isRead
    simp only [Bool.and_eq_true, List.contains_iff_mem] at isRead
    have letters : integerSuffixes.all (·.all isLiteralChar) = true := by decide
    exact List.all_eq_true.mp (List.all_eq_true.mp letters _ isRead.1.2)
  · cases read

theorem isLiteralChar_of_integerNumber? (read : integerNumber? text = some number) :
    ∀ c ∈ text, isLiteralChar c = true := by
  unfold integerNumber? at read
  split at read
  · split at read
    · rename_i isMark
      refine List.forall_mem_cons.mpr ⟨rfl, List.forall_mem_cons.mpr ⟨?_,
        isLiteralChar_of_digitsNumber? (fun _ digit => digit) read⟩⟩
      rcases isMark with rfl | rfl <;> rfl
    · split at read
      · rename_i isMark
        refine List.forall_mem_cons.mpr ⟨rfl, List.forall_mem_cons.mpr ⟨?_,
          isLiteralChar_of_digitsNumber? isHexDigit_of_isBinaryDigit read⟩⟩
        rcases isMark with rfl | rfl <;> rfl
      · exact isLiteralChar_of_digitsNumber? isHexDigit_of_isDigit read
  · split at read
    · exact isLiteralChar_of_digitsNumber? isHexDigit_of_isDigit read
    · cases read
  · cases read

theorem isLiteralChar_of_readSign (later : ∀ c ∈ (readSign text).2, isLiteralChar c = true) :
    ∀ c ∈ text, isLiteralChar c = true := by
  unfold readSign at later
  split at later
  · exact List.forall_mem_cons.mpr ⟨rfl, later⟩
  · exact List.forall_mem_cons.mpr ⟨rfl, later⟩
  · exact later

theorem isLiteralChar_of_readExponentDigits? {rest : List Char} {exponent : Nat}
    (read : readExponentDigits? text = some (exponent, rest))
    (later : ∀ c ∈ rest, isLiteralChar c = true) : ∀ c ∈ text, isLiteralChar c = true := by
  rw [readExponentDigits?] at read
  split at read
  · cases read
    exact isLiteralChar_of_dropWhile isHexDigit_of_isDigit later
  · cases read

theorem isLiteralChar_of_readExponent? {rest : List Char} {exponent : Int}
    (read : readExponent? text = some (exponent, rest))
    (later : ∀ c ∈ rest, isLiteralChar c = true) : ∀ c ∈ text, isLiteralChar c = true := by
  unfold readExponent? at read
  split at read
  · simp
  · split at read
    · rename_i c text isLetter
      rcases Option.map_eq_some_iff.mp read with ⟨⟨number, rest⟩, isRead, equal⟩
      cases equal
      refine List.forall_mem_cons.mpr ⟨?_, isLiteralChar_of_readSign
        (isLiteralChar_of_readExponentDigits? isRead later)⟩
      rcases isLetter with rfl | rfl <;> rfl
    · cases read
      exact later

theorem isLiteralChar_of_readFraction
    (later : ∀ c ∈ (readFraction text).2, isLiteralChar c = true) :
    ∀ c ∈ text, isLiteralChar c = true := by
  unfold readFraction at later
  split at later
  · exact List.forall_mem_cons.mpr ⟨rfl, isLiteralChar_of_dropWhile isHexDigit_of_isDigit later⟩
  · exact later

theorem isLiteralChar_of_realLimit? {limit : ℚ} (isLimit : realLimit? text = some limit) :
    ∀ c ∈ text, isLiteralChar c = true := by
  unfold realLimit? at isLimit
  split at isLimit
  case h_8 => cases isLimit
  all_goals exact List.all_eq_true.mp (by decide)

theorem isLiteralChar_of_realNumber? (read : realNumber? text = some number) :
    ∀ c ∈ text, isLiteralChar c = true := by
  apply isLiteralChar_of_dropWhile isHexDigit_of_isDigit
  apply isLiteralChar_of_readFraction
  rw [realNumber?] at read
  generalize readFraction (text.dropWhile (isSpacedDigit Char.isDigit)) = pair at read ⊢
  dsimp only at read
  split at read
  · rcases Option.bind_eq_some_iff.mp read with ⟨⟨exponent, suffix⟩, isExponent, read⟩
    rcases Option.bind_eq_some_iff.mp read with ⟨limit, isLimit, _⟩
    exact isLiteralChar_of_readExponent? isExponent (isLiteralChar_of_realLimit? isLimit)
  · cases read

/-- A literal has no other characters. -/
theorem isLiteralChar_of_literalNumber? (read : literalNumber? text = some number) :
    ∀ c ∈ text, isLiteralChar c = true := by
  rw [literalNumber?] at read
  cases isInteger : integerNumber? text with
  | some integer => exact isLiteralChar_of_integerNumber? isInteger
  | none =>
      rw [isInteger] at read
      exact isLiteralChar_of_realNumber? read

end Characters

namespace DeclaredReal

variable (literal : DeclaredReal)

/-- The exponent of a literal and the mark of single precision. -/
def tail (mark : List Char) : List Char :=
  (literal.exponent.map Exponent.chars).getD [] ++ mark

theorem core_append (mark : List Char) :
    literal.core ++ mark =
      literal.whole ++ ((literal.fraction.map ('.' :: ·)).getD [] ++ literal.tail mark) := by
  simp [core, tail]

variable {literal} {mark : List Char}

theorem tail_starts (isMark : mark = [] ∨ mark = ['f']) :
    ∀ c ∈ (literal.tail mark).head?, isSpacedDigit Char.isDigit c = false ∧ c ≠ '.' := by
  have letters : ∀ c ∈ ['e', 'E', 'f'], isSpacedDigit Char.isDigit c = false ∧ c ≠ '.' :=
    List.all_iff_forall_prop.mp (by decide)
  intro c first
  apply letters
  rw [tail] at first
  cases isExponent : literal.exponent with
  | none =>
      rw [isExponent] at first
      rcases isMark with rfl | rfl
      · cases first
      · cases first
        simp
  | some exponent =>
      rw [isExponent] at first
      simp only [Option.map_some, Option.getD_some, Exponent.chars, List.cons_append,
        List.head?_cons, Option.mem_some_iff] at first
      rw [← first]
      cases exponent.capital <;> simp

section Plain

variable (noQuote : '\'' ∉ literal.core)

include noQuote

theorem whole_noQuote : '\'' ∉ literal.whole :=
  fun member => noQuote (List.mem_append_left _ member)

theorem fraction_noQuote : ∀ part ∈ literal.fraction, '\'' ∉ part := by
  intro part isPart member
  apply noQuote
  rw [core, Option.mem_def.mp isPart]
  simp [member]

theorem exponent_noQuote : ∀ exponent ∈ literal.exponent, '\'' ∉ exponent.digits := by
  intro exponent isExponent member
  apply noQuote
  rw [core, Option.mem_def.mp isExponent]
  simp [Exponent.chars, member]

theorem whole_digits : ∀ c ∈ literal.whole, c.isDigit = true := by
  rcases literal.isWhole with empty | isQuoted
  · simp [empty]
  · exact (isQuoted.allDigits (whole_noQuote noQuote)).digits

theorem fraction_digits : ∀ part ∈ literal.fraction, ∀ c ∈ part, c.isDigit = true := by
  intro part isPart
  rcases literal.isFraction part isPart with rfl | isQuoted
  · simp
  · exact (isQuoted.allDigits (fraction_noQuote noQuote part isPart)).digits

theorem readExponent?_tail (isMark : mark = [] ∨ mark = ['f']) :
    readExponent? (literal.tail mark) =
      some ((literal.exponent.map Exponent.value).getD 0, mark) := by
  rw [tail]
  cases isExponent : literal.exponent with
  | none =>
      rw [Option.map_none, Option.getD_none, List.nil_append, Option.map_none, Option.getD_none]
      apply readExponent?_none
      rcases isMark with rfl | rfl
      · simp
      · simp
  | some exponent =>
      rw [Option.map_some, Option.getD_some, Option.map_some, Option.getD_some]
      apply readExponent?_chars exponent (exponent_noQuote noQuote exponent isExponent)
      rcases isMark with rfl | rfl
      · simp
      · rintro _ ⟨⟩
        decide

theorem isDigitSequence_whole :
    (isDigitSequence literal.whole || literal.whole.isEmpty && literal.fraction.isSome) = true := by
  rcases literal.isWhole with empty | isQuoted
  · rcases literal.hasDigits with nonempty | ⟨part, isPart, _⟩
    · exact absurd empty nonempty
    · simp [empty, Option.mem_def.mp isPart]
  · rw [(isQuoted.allDigits (whole_noQuote noQuote)).isDigitSequence, Bool.true_or]

theorem all_isDigitSequence_fraction :
    literal.fraction.all isDigitSequence = true ↔ literal.fraction ≠ some [] := by
  cases isPart : literal.fraction with
  | none => simp
  | some part =>
      rcases literal.isFraction part isPart with rfl | isQuoted
      · simp [isDigitSequence]
      · have all := isQuoted.allDigits (fraction_noQuote noQuote part isPart)
        simp [all.isDigitSequence, all.nonempty]

/-- A literal without quotes is read if a digit follows its decimal point and its number is not too
large. -/
theorem realNumber?_core {limit : ℚ} (isMark : mark = [] ∨ mark = ['f'])
    (isLimit : realLimit? mark = some limit) :
    realNumber? (literal.core ++ mark) =
      if literal.fraction ≠ some [] ∧ literal.value < limit then some literal.value else none := by
  have starts := @tail_starts literal mark isMark
  have fraction := readFraction_append (fraction_digits noQuote) starts
  have ends : ∀ c ∈ ((literal.fraction.map ('.' :: ·)).getD [] ++ literal.tail mark).head?,
      isSpacedDigit Char.isDigit c = false := by
    cases literal.fraction with
    | none => exact fun c first => (starts c first).1
    | some part =>
        rintro _ ⟨⟩
        decide
  rcases spanDigits (whole_digits noQuote) ends with ⟨taken, dropped⟩
  have marked : (literal.fraction.isSome || !(literal.tail mark).isEmpty) = true := by
    rcases literal.isReal with pointed | exponent
    · rw [pointed, Bool.true_or]
    · rcases Option.isSome_iff_exists.mp exponent with ⟨exponent, isExponent⟩
      simp [tail, isExponent, Exponent.chars]
  have unquotedFraction : unquoted (literal.fraction.getD []) =
      (literal.fraction.getD []).filter Char.isDigit := by
    cases isPart : literal.fraction with
    | none => rfl
    | some part =>
        rw [Option.getD_some, unquoted_eq_self (fraction_noQuote noQuote part isPart),
          filter_digits (fraction_digits noQuote part isPart)]
  rw [core_append, realNumber?, taken, dropped, fraction]
  dsimp only
  rw [marked, isDigitSequence_whole noQuote, Bool.true_and, Bool.true_and,
    readExponent?_tail noQuote isMark, filter_digits (whole_digits noQuote), ← unquotedFraction]
  simp only [all_isDigitSequence_fraction noQuote, Option.bind_eq_bind, Option.bind_some, isLimit]
  rw [value, unquoted_eq_self (whole_noQuote noQuote), ite_and]

theorem core_chars :
    ∀ c ∈ literal.core, c.isDigit = true ∨ c ∈ ['.', 'e', 'E', '+', '-'] := by
  intro c member
  simp only [core, List.mem_append] at member
  rcases member with inWhole | inFraction | inExponent
  · exact Or.inl (whole_digits noQuote c inWhole)
  · cases isPart : literal.fraction with
    | none => simp [isPart] at inFraction
    | some part =>
        rw [isPart, Option.map_some, Option.getD_some] at inFraction
        rcases List.mem_cons.mp inFraction with rfl | inPart
        · exact Or.inr (by simp)
        · exact Or.inl (fraction_digits noQuote part isPart c inPart)
  · cases isExponent : literal.exponent with
    | none => simp [isExponent] at inExponent
    | some exponent =>
        rw [isExponent, Option.map_some, Option.getD_some, Exponent.chars] at inExponent
        rcases List.mem_cons.mp inExponent with rfl | inExponent
        · right
          cases exponent.capital <;> simp
        rcases List.mem_append.mp inExponent with inSign | inDigits
        · have letters : ∀ c ∈ signs.flatten, c ∈ ['.', 'e', 'E', '+', '-'] :=
            List.all_iff_forall_prop.mp (by decide)
          exact Or.inr (letters c (List.mem_flatten_of_mem exponent.isSign inSign))
        · have all := exponent.isQuoted.allDigits (exponent_noQuote noQuote exponent isExponent)
          exact Or.inl (all.digits c inDigits)

/-- A real literal is not read as an integer. -/
theorem integerNumber?_core (isMark : mark = [] ∨ mark = ['f']) :
    integerNumber? (literal.core ++ mark) = none := by
  have noMark : ∀ c ∈ literal.core ++ mark, c ∉ ['x', 'X', 'b', 'B'] := by
    intro c member isMarkChar
    have letters : ∀ c ∈ ['x', 'X', 'b', 'B'],
        c.isDigit = false ∧ c ∉ ['.', 'e', 'E', '+', '-'] :=
      List.all_iff_forall_prop.mp (by decide)
    rcases List.mem_append.mp member with inCore | inMark
    · rcases core_chars noQuote c inCore with digit | other
      · rw [(letters c isMarkChar).1] at digit
        cases digit
      · exact (letters c isMarkChar).2 other
    · rcases isMark with rfl | rfl
      · cases inMark
      · rw [List.mem_singleton.mp inMark] at isMarkChar
        exact absurd isMarkChar (by decide)
  rw [core_append] at noMark ⊢
  obtain ⟨c, later, split, isLetter⟩ : ∃ c later,
      (literal.fraction.map ('.' :: ·)).getD [] ++ literal.tail mark = c :: later ∧
        c ∈ ['.', 'e', 'E'] := by
    cases isPart : literal.fraction with
    | some part => exact ⟨'.', _, rfl, by simp⟩
    | none =>
        rcases literal.isReal with pointed | exponent
        · rw [isPart] at pointed
          cases pointed
        · rcases Option.isSome_iff_exists.mp exponent with ⟨exponent, isExponent⟩
          refine ⟨if exponent.capital then 'E' else 'e', exponent.sign ++ exponent.digits ++ mark,
            ?_, ?_⟩
          · simp [tail, isExponent, Exponent.chars]
          · cases exponent.capital <;> simp
  rw [split] at noMark ⊢
  rcases literal.isWhole with empty | isQuoted
  · rw [empty, List.nil_append]
    rcases literal.hasDigits with nonempty | ⟨part, isPart, _⟩
    · exact absurd empty nonempty
    · rw [Option.mem_def.mp isPart] at split
      cases split
      rfl
  · have all := isQuoted.allDigits (whole_noQuote noQuote)
    have ends : ∀ c ∈ ['.', 'e', 'E'], isSpacedDigit Char.isDigit c = false :=
      List.all_iff_forall_prop.mp (by decide)
    rw [integerNumber?_decimal (all.starts _) noMark (by simp)]
    refine digitsNumber?_eq_none all ?_ ?_
    · rintro _ ⟨⟩
      exact ends c isLetter
    · intro known
      have letters : ∀ c ∈ integerSuffixes.flatten, c ∉ ['.', 'e', 'E'] :=
        List.all_iff_forall_prop.mp (by decide)
      exact letters c (List.mem_flatten_of_mem known List.mem_cons_self) isLetter

/-- A literal without quotes denotes its number if a digit follows its decimal point and the number
is not too large. -/
theorem literalNumber?_core {limit : ℚ} (isMark : mark = [] ∨ mark = ['f'])
    (isLimit : realLimit? mark = some limit) :
    literalNumber? (literal.core ++ mark) =
      if literal.fraction ≠ some [] ∧ literal.value < limit then some literal.value else none := by
  rw [literalNumber?, integerNumber?_core noQuote isMark, realNumber?_core noQuote isMark isLimit]
  rfl

example : literalNumber? "1.5e-1f".toList = some (3 / 20) := by decide +kernel

example : literalNumber? "1.f".toList = none := by decide +kernel

end Plain

end DeclaredReal

end HeaderBindings.Managed
