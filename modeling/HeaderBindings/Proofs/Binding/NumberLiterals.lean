import HeaderBindings.Binding.Managed.Default
import HeaderBindings.Proofs.Binding.NumberReading
import HeaderBindings.Proofs.Header.EnumNumbering
import HeaderBindings.Proofs.Text.Slice
import Mathlib.Tactic.NormNum

/-!
# Number literals in signatures

A number literal that is the default of a parameter goes without its suffix,
and it gets the mark of single precision for a parameter of that precision.  It
keeps its number except for three kinds: octal digits are read as decimal ones,
a decimal point needs digits behind it, and the number can be too large for the
precision of the parameter.
-/

namespace HeaderBindings.Managed

/-! ## Octal digits -/

theorem isDigit_of_isOctalDigit {c : Char} (octal : isOctalDigit c = true) :
    c.isDigit = true ∧ Text.digitValue c < 8 := by
  simp only [isOctalDigit, Bool.and_eq_true, decide_eq_true_eq, Char.le_def,
    UInt32.le_iff_toNat_le] at octal
  have low : 48 ≤ c.toNat := octal.1
  have high : c.toNat ≤ 55 := octal.2
  have digit : c.isDigit = true := by
    simp only [Char.isDigit, Bool.and_eq_true, decide_eq_true_eq, ge_iff_le,
      UInt32.le_iff_toNat_le]
    exact ⟨low, high.trans (by decide)⟩
  refine ⟨digit, ?_⟩
  rw [Text.digitValue, if_pos digit]
  have zero : '0'.toNat = 48 := rfl
  omega

/-- Octal digits denote the same number in base ten only if they denote a single digit. -/
theorem numberOf_ten_eq_iff {digits : List Char} (octal : ∀ c ∈ digits, isOctalDigit c = true) :
    Text.numberOf 10 digits = Text.numberOf 8 digits ↔ Text.numberOf 8 digits < 8 := by
  suffices Text.numberOf 8 digits ≤ Text.numberOf 10 digits ∧
      (Text.numberOf 10 digits = Text.numberOf 8 digits ↔ Text.numberOf 8 digits < 8) from this.2
  induction digits using List.reverseRecOn with
  | nil => decide
  | append_singleton digits c ih =>
      rw [List.forall_mem_append, List.forall_mem_singleton] at octal
      have last := (isDigit_of_isOctalDigit octal.2).2
      rcases ih octal.1 with ⟨le, same⟩
      rw [Header.numberOf_concat, Header.numberOf_concat]
      omega

/-! ## What becomes of a literal -/

/-- The mark that a literal gets for a parameter of a type. -/
def singleMark (type : String) : List Char :=
  if type == "float" || type == "real_t" then ['f'] else []

/-- The least number that is too large for a real literal for a parameter of a type. -/
def limitFor (type : String) : ℚ :=
  if type == "float" || type == "real_t" then singleLimit else doubleLimit

theorem singleMark_cases (type : String) :
    (singleMark type = [] ∨ singleMark type = ['f']) ∧
      realLimit? (singleMark type) = some (limitFor type) := by
  rw [singleMark, limitFor]
  split
  · exact ⟨Or.inr rfl, rfl⟩
  · exact ⟨Or.inl rfl, rfl⟩

theorem isIntegerSuffix_of_isHexDigit {c : Char} (digit : Text.isHexDigit c = true) :
    Text.isIntegerSuffix c = false := by
  rw [Bool.eq_false_iff]
  intro isSuffix
  have notDigit : (Header.DigitBase.hexadecimal false).isDigit c = false :=
    Header.isDigit_of_isIntegerSuffix isSuffix
  rw [show (Header.DigitBase.hexadecimal false).isDigit c = Text.isHexDigit c from rfl, digit]
    at notDigit
  cases notDigit

/-- The characters of a decimal literal in front of its suffix, and a sign. -/
def isPlainChar (c : Char) : Bool :=
  c.isDigit || ['.', 'e', 'E', '+', '-'].contains c

theorem isPlainChar_apart {c : Char} (plain : isPlainChar c = true) :
    Text.isNumberSuffix c = false ∧ Text.isIntegerSuffix c = false ∧ c ≠ 'x' ∧ c ≠ 'X' := by
  have letters : ∀ d ∈ ['u', 'U', 'l', 'L', 'f', 'F', 'x', 'X'], isPlainChar d = false :=
    List.all_iff_forall_prop.mp (by decide)
  have absent : c ∉ ['u', 'U', 'l', 'L', 'f', 'F', 'x', 'X'] := by
    intro member
    rw [letters c member] at plain
    cases plain
  simp only [List.mem_cons, List.not_mem_nil, or_false, not_or] at absent
  simp [Text.isNumberSuffix, Text.isIntegerSuffix, absent]

theorem isPlainChar_of_mem_sign {sign : List Char} (isSign : sign ∈ signs) :
    ∀ c ∈ sign, isPlainChar c = true := by
  have plain : signs.all (·.all isPlainChar) = true := by decide
  exact List.all_eq_true.mp (List.all_eq_true.mp plain sign isSign)

section Emission

variable {front suffix : List Char}

theorem dropEndWhile_suffix {p : Char → Bool} (apart : ∀ c ∈ front, p c = false)
    (isSuffix : ∀ c ∈ suffix, p c = true) : Text.dropEndWhile p (front ++ suffix) = front := by
  rw [Text.dropEndWhile_eq_rdropWhile,
    Text.rdropWhile_append_of_last _ fun nonempty => apart _ (List.getLast_mem nonempty),
    List.rdropWhile_eq_nil_iff.mpr isSuffix, List.append_nil]

/-- A literal without the mark of base sixteen loses its suffix. -/
theorem numberLiteral_decimal (type : String) (plain : ∀ c ∈ front, isPlainChar c = true)
    (isSuffix : ∀ c ∈ suffix, Text.isNumberSuffix c = true) :
    numberLiteral type (.ofList (front ++ suffix)) = .ofList (front ++ singleMark type) := by
  have unmarked : (front.any fun c => c == 'x' || c == 'X') = false := by
    rw [List.any_eq_false]
    intro c member
    simpa using (isPlainChar_apart (plain c member)).2.2
  rw [numberLiteral, String.toList_ofList,
    dropEndWhile_suffix (fun c member => (isPlainChar_apart (plain c member)).1) isSuffix, unmarked,
    singleMark, if_neg Bool.false_ne_true]
  split
  · rfl
  · rw [List.append_nil]

/-- A literal with the mark of base sixteen loses the suffix of an integer. -/
theorem numberLiteral_hexadecimal (type : String) {before after : List Char} {mark : Char}
    (isMark : mark = 'x' ∨ mark = 'X') (split : front = before ++ mark :: after)
    (apart : ∀ c ∈ front, Text.isIntegerSuffix c = false)
    (isSuffix : ∀ c ∈ suffix, Text.isIntegerSuffix c = true) :
    numberLiteral type (.ofList (front ++ suffix)) = .ofList front := by
  have marked : ((Text.dropEndWhile Text.isNumberSuffix (front ++ suffix)).any
      fun c => c == 'x' || c == 'X') = true := by
    have stops : ∀ nonempty : before ++ [mark] ≠ [],
        Text.isNumberSuffix ((before ++ [mark]).getLast nonempty) = false := by
      intro nonempty
      rw [List.getLast_concat]
      rcases isMark with rfl | rfl <;> rfl
    have whole : front ++ suffix = (before ++ [mark]) ++ (after ++ suffix) := by simp [split]
    rw [whole, Text.dropEndWhile_eq_rdropWhile, Text.rdropWhile_append_of_last _ stops,
      List.any_eq_true]
    exact ⟨mark, by simp, by simpa using isMark⟩
  rw [numberLiteral, String.toList_ofList, dropEndWhile_suffix apart isSuffix, if_pos marked]

end Emission

/-! ## What is recognized -/

/-- A character that a recognized number can have. -/
def isNumberChar (c : Char) : Bool :=
  Text.isHexDigit c || Text.isNumberSuffix c || ['x', 'X', '.', '+', '-'].contains c

section Recognition

variable {text : List Char}

theorem isNumberChar_of_isDigit {c : Char} (digit : c.isDigit = true) : isNumberChar c = true := by
  simp [isNumberChar, Text.isHexDigit, digit]

theorem isNumberChar_of_isSuffix (isSuffix : text.all Text.isNumberSuffix = true) :
    ∀ c ∈ text, isNumberChar c = true := by
  intro c member
  simp [isNumberChar, List.all_eq_true.mp isSuffix c member]

theorem isNumberChar_of_isNumberTail (isTail : isNumberTail text = true) :
    ∀ c ∈ text, isNumberChar c = true := by
  have signed (c : Char) (isSign : c = '-' ∨ c = '+') : isNumberChar c = true := by
    rcases isSign with rfl | rfl <;> rfl
  have exponent {digits : List Char}
      (isExponent : (digits.head?.any Char.isDigit &&
        (digits.dropWhile Char.isDigit).all Text.isNumberSuffix) = true) :
      ∀ c ∈ digits, isNumberChar c = true :=
    forall_mem_of_dropWhile (fun _ => isNumberChar_of_isDigit)
      (isNumberChar_of_isSuffix (Bool.and_eq_true_iff.mp isExponent).2)
  unfold isNumberTail at isTail
  split at isTail
  · rename_i c rest
    split at isTail
    · rename_i isLetter
      rw [List.forall_mem_cons]
      refine ⟨by rcases isLetter with rfl | rfl <;> rfl, ?_⟩
      dsimp only at isTail
      split at isTail
      · exact List.forall_mem_cons.mpr ⟨signed _ (Or.inl rfl), exponent isTail⟩
      · exact List.forall_mem_cons.mpr ⟨signed _ (Or.inr rfl), exponent isTail⟩
      · exact exponent isTail
    · exact isNumberChar_of_isSuffix isTail
  · simp

theorem isNumberChar_of_isHexNumberTail (isTail : isHexNumberTail text = true) :
    ∀ c ∈ text, isNumberChar c = true := by
  have digits (c : Char) (digit : Text.isHexDigit c = true) : isNumberChar c = true := by
    simp [isNumberChar, digit]
  refine forall_mem_of_dropWhile digits ?_
  rw [isHexNumberTail] at isTail
  rcases Bool.or_eq_true_iff.mp isTail with suffixed | exponent
  · exact isNumberChar_of_isSuffix (Bool.and_eq_true_iff.mp suffixed).2
  · split at exponent
    · rename_i isRest
      rw [isRest]
      have later := isNumberChar_of_isNumberTail (Bool.and_eq_true_iff.mp exponent).2
      rw [isRest] at later
      exact fun c member => later c (List.mem_cons_of_mem _ member)
    · cases exponent

/-- A recognized number consists of digits, of letters that mark its parts, and of signs. -/
theorem isNumberChar_of_isUnsignedNumber (isNumber : isUnsignedNumber text = true) :
    ∀ c ∈ text, isNumberChar c = true := by
  have digits (c : Char) : c.isDigit = true → isNumberChar c = true := isNumberChar_of_isDigit
  unfold isUnsignedNumber at isNumber
  split at isNumber
  · exact List.forall_mem_cons.mpr ⟨rfl, List.forall_mem_cons.mpr
      ⟨rfl, isNumberChar_of_isHexNumberTail isNumber⟩⟩
  · exact List.forall_mem_cons.mpr ⟨rfl, List.forall_mem_cons.mpr
      ⟨rfl, isNumberChar_of_isHexNumberTail isNumber⟩⟩
  · refine List.forall_mem_cons.mpr ⟨rfl, forall_mem_of_dropWhile digits ?_⟩
    exact isNumberChar_of_isNumberTail (Bool.and_eq_true_iff.mp isNumber).2
  · have rest := (Bool.and_eq_true_iff.mp isNumber).2
    refine forall_mem_of_dropWhile digits ?_
    split at rest
    · rename_i isPoint
      rw [isPoint]
      refine List.forall_mem_cons.mpr ⟨rfl, forall_mem_of_dropWhile digits ?_⟩
      exact isNumberChar_of_isNumberTail rest
    · exact isNumberChar_of_isNumberTail rest

/-- A number in base two is not recognized. -/
theorem isUnsignedNumber_binary {mark : Char} (isMark : mark = 'b' ∨ mark = 'B')
    (rest : List Char) : isUnsignedNumber ('0' :: mark :: rest) = false := by
  rcases isMark with rfl | rfl <;> rfl

/-- A sign has no influence on what is recognized. -/
theorem isNumberLiteral_signed {sign : List Char} (isSign : sign ∈ signs)
    (unsigned : ∀ c ∈ text.head?, c ≠ '-' ∧ c ≠ '+') :
    isNumberLiteral (.ofList (sign ++ text)) = isUnsignedNumber text := by
  rw [isNumberLiteral, String.toList_ofList]
  rcases mem_signs.mp isSign with rfl | rfl | rfl
  · rw [List.nil_append]
    split
    · exact absurd rfl (unsigned '-' rfl).1
    · exact absurd rfl (unsigned '+' rfl).2
    · rfl
  · rfl
  · rfl

end Recognition

/-! ## Integers -/

theorem Radix.prefix_cases (radix : Radix) :
    (∃ capital, radix = .binary capital) ∨ (radix = .octal ∨ radix = .decimal) ∨
      ∃ capital, radix = .hexadecimal capital := by
  cases radix with
  | binary capital => exact Or.inl ⟨capital, rfl⟩
  | octal => exact Or.inr (Or.inl (Or.inl rfl))
  | decimal => exact Or.inr (Or.inl (Or.inr rfl))
  | hexadecimal capital => exact Or.inr (Or.inr ⟨capital, rfl⟩)

theorem Radix.lead_eq_nil {radix : Radix} (unprefixed : radix = .octal ∨ radix = .decimal) :
    radix.lead = [] := by
  rcases unprefixed with rfl | rfl <;> rfl

namespace DeclaredInteger

variable {literal : DeclaredInteger}

theorem mem_suffix_iff {c : Char} :
    c ∈ literal.suffix ↔ c ∈ literal.unsignedMark ∨ c ∈ literal.sizeMark := by
  rw [suffix]
  split
  · rw [List.mem_append, or_comm]
  · rw [List.mem_append]

theorem mem_marks_of_mem_suffix {c : Char} (member : c ∈ literal.suffix) :
    c ∈ (unsignedMarks ++ sizeMarks).flatten := by
  rcases mem_suffix_iff.mp member with inMark | inMark
  · exact List.mem_flatten_of_mem (List.mem_append_left _ literal.isUnsignedMark) inMark
  · exact List.mem_flatten_of_mem (List.mem_append_right _ literal.isSizeMark) inMark

/-- Apart from the letters of two suffixes, which are not known, a suffix is cut off. -/
theorem isIntegerSuffix_of_mem_suffix :
    ∀ c ∈ literal.suffix, Text.isIntegerSuffix c = true ∨ c = 'z' ∨ c = 'Z' := by
  have letters : ∀ c ∈ (unsignedMarks ++ sizeMarks).flatten,
      Text.isIntegerSuffix c = true ∨ c = 'z' ∨ c = 'Z' :=
    List.all_iff_forall_prop.mp (by decide)
  exact fun c member => letters c (mem_marks_of_mem_suffix member)

theorem value_lt : literal.value < 2 ^ 64 := by
  refine lt_of_lt_of_le literal.fits ?_
  split
  · decide
  · exact le_refl _

/-- An integer literal starts with a digit. -/
theorem exists_digit (literal : DeclaredInteger) :
    ∃ c rest, literal.radix.lead ++ literal.digits = c :: rest ∧ c.isDigit = true := by
  rcases literal.isQuoted.exists_cons with ⟨c, rest, isDigits, digit⟩
  rw [isDigits]
  cases isRadix : literal.radix with
  | binary capital => exact ⟨'0', _, rfl, rfl⟩
  | octal =>
      rw [isRadix] at digit
      exact ⟨c, rest, rfl, (isDigit_of_isOctalDigit digit).1⟩
  | decimal =>
      rw [isRadix] at digit
      exact ⟨c, rest, rfl, digit⟩
  | hexadecimal capital => exact ⟨'0', _, rfl, rfl⟩

section Plain

variable (noQuote : '\'' ∉ literal.digits)

include noQuote

theorem allDigits : AllDigits literal.radix.isDigit literal.digits :=
  literal.isQuoted.allDigits noQuote

theorem value_eq : literal.value = Text.numberOf literal.radix.base literal.digits := by
  rw [value, unquoted_eq_self noQuote]

/-- Octal and decimal digits are decimal ones. -/
theorem decimalDigits (unprefixed : literal.radix = .octal ∨ literal.radix = .decimal) :
    AllDigits Char.isDigit literal.digits := by
  have all := allDigits noQuote
  refine ⟨all.nonempty, fun c member => ?_⟩
  have digit := all.digits c member
  rcases unprefixed with isOctal | isDecimal
  · rw [isOctal] at digit
    exact (isDigit_of_isOctalDigit digit).1
  · rw [isDecimal] at digit
    exact digit

theorem isHexDigit_digits : ∀ c ∈ literal.digits, Text.isHexDigit c = true := by
  intro c member
  have digit := (allDigits noQuote).digits c member
  rcases literal.radix.prefix_cases with ⟨capital, isBinary⟩ | unprefixed | ⟨capital, isHexadecimal⟩
  · rw [isBinary] at digit
    exact isHexDigit_of_isBinaryDigit c digit
  · exact isHexDigit_of_isDigit c ((decimalDigits noQuote unprefixed).digits c member)
  · rw [isHexadecimal] at digit
    exact digit

theorem literalNumber?_hexadecimal {capital : Bool}
    (isHexadecimal : literal.radix = .hexadecimal capital) :
    literalNumber? (literal.radix.lead ++ literal.digits) = some (literal.value : ℚ) := by
  have all : AllDigits Text.isHexDigit literal.digits := by
    have all := allDigits noQuote
    rwa [isHexadecimal] at all
  have isValue : literal.value = Text.numberOf 16 literal.digits := by
    rw [value_eq noQuote, isHexadecimal]
    rfl
  have read : integerNumber? (literal.radix.lead ++ literal.digits) =
      digitsNumber? 16 Text.isHexDigit literal.digits := by
    rw [isHexadecimal]
    cases capital <;> rfl
  rw [literalNumber?, read, digitsNumber?_digits all (isValue ▸ literal.value_lt), isValue]
  rfl

/-- Without a prefix, the digits have the number of a literal unless they are octal digits of a
larger number. -/
theorem literalNumber?_unprefixed {mark : List Char}
    (unprefixed : literal.radix = .octal ∨ literal.radix = .decimal)
    (isMark : mark = [] ∨ mark = ['f']) :
    literalNumber? (literal.digits ++ mark) = some (literal.value : ℚ) ↔
      (literal.radix = .octal → literal.value < 8) := by
  have small : (literal.value : ℚ) < if mark = [] then 2 ^ 64 else singleLimit := by
    have fits : (literal.value : ℚ) < 2 ^ 64 := by exact_mod_cast literal.value_lt
    split
    · exact fits
    · exact fits.trans (by norm_num [singleLimit])
  have isValue := value_eq noQuote
  rw [literalNumber?_digits (decimalDigits noQuote unprefixed) isMark]
  generalize (if mark = [] then (2 ^ 64 : ℚ) else singleLimit) = limit at small ⊢
  rcases unprefixed with isOctal | isDecimal
  · have all : ∀ c ∈ literal.digits, isOctalDigit c = true := by
      have all := (allDigits noQuote).digits
      rwa [isOctal] at all
    rw [isOctal, Radix.base] at isValue
    have same := numberOf_ten_eq_iff all
    rw [← isValue] at same
    rw [← same]
    constructor
    · intro read _
      split at read
      · exact_mod_cast Option.some.inj read
      · cases read
    · intro equal
      rw [equal isOctal, if_pos small]
  · rw [isDecimal, Radix.base] at isValue
    rw [← isValue, if_pos small, isDecimal]
    simp

end Plain

/-- The parts of a literal that is recognized have no quotes and no unknown suffix, and the base is
not two. -/
theorem parts_of_recognized (recognized : isUnsignedNumber literal.chars = true) :
    '\'' ∉ literal.digits ∧ (∀ c ∈ literal.suffix, Text.isIntegerSuffix c = true) ∧
      ∀ capital, literal.radix ≠ .binary capital := by
  have chars := isNumberChar_of_isUnsignedNumber recognized
  refine ⟨?_, ?_, ?_⟩
  · intro member
    exact absurd (chars '\'' (by simp [DeclaredInteger.chars, member])) (by decide)
  · intro c member
    have isNumber := chars c (by simp [DeclaredInteger.chars, member])
    rcases isIntegerSuffix_of_mem_suffix c member with isSuffix | rfl | rfl
    · exact isSuffix
    · exact absurd isNumber (by decide)
    · exact absurd isNumber (by decide)
  · intro capital isBinary
    have notNumber : isUnsignedNumber ('0' :: (if capital then 'B' else 'b') ::
        (literal.digits ++ literal.suffix)) = false :=
      isUnsignedNumber_binary (by cases capital <;> simp) _
    rw [DeclaredInteger.chars, isBinary] at recognized
    exact absurd (recognized.symm.trans notNumber) (by decide)

/-- A literal that is recognized keeps its number unless it is an octal one of a larger number. -/
theorem numberLiteral_chars (recognized : isUnsignedNumber literal.chars = true) (type : String)
    {sign : List Char} (isSign : sign ∈ signs) :
    ∃ emitted,
      numberLiteral type (.ofList (sign ++ literal.chars)) = .ofList (sign ++ emitted) ∧
      (literalNumber? emitted = some (literal.value : ℚ) ↔
        (literal.radix = .octal → literal.value < 8)) := by
  rcases parts_of_recognized recognized with ⟨noQuote, isSuffix, notBinary⟩
  have signPlain := isPlainChar_of_mem_sign isSign
  rcases literal.radix.prefix_cases with ⟨capital, isBinary⟩ | unprefixed | ⟨capital, isHexadecimal⟩
  · exact absurd isBinary (notBinary capital)
  · refine ⟨literal.digits ++ singleMark type, ?_,
      literalNumber?_unprefixed noQuote unprefixed (singleMark_cases type).1⟩
    have plain : ∀ c ∈ sign ++ literal.digits, isPlainChar c = true := by
      refine List.forall_mem_append.mpr ⟨signPlain, fun c member => ?_⟩
      rw [isPlainChar, (decimalDigits noQuote unprefixed).digits c member, Bool.true_or]
    rw [DeclaredInteger.chars, Radix.lead_eq_nil unprefixed, List.nil_append, ← List.append_assoc,
      ← List.append_assoc]
    exact numberLiteral_decimal type plain fun c member => by
      rw [Text.isNumberSuffix, isSuffix c member, Bool.true_or, Bool.true_or]
  · refine ⟨literal.radix.lead ++ literal.digits, ?_, ?_⟩
    · have apart : ∀ c ∈ sign ++ (literal.radix.lead ++ literal.digits),
          Text.isIntegerSuffix c = false := by
        have leads : ∀ capital, ∀ c ∈ (Radix.hexadecimal capital).lead,
            Text.isIntegerSuffix c = false := by
          intro capital
          cases capital <;> exact List.all_iff_forall_prop.mp (by decide)
        rw [isHexadecimal]
        refine List.forall_mem_append.mpr
          ⟨fun c inSign => (isPlainChar_apart (signPlain c inSign)).2.1, ?_⟩
        exact List.forall_mem_append.mpr ⟨leads capital, fun c inDigits =>
          isIntegerSuffix_of_isHexDigit (isHexDigit_digits noQuote c inDigits)⟩
      have split : sign ++ (literal.radix.lead ++ literal.digits) =
          (sign ++ ['0']) ++ (if capital then 'X' else 'x') :: literal.digits := by
        simp [isHexadecimal, Radix.lead]
      rw [DeclaredInteger.chars, ← List.append_assoc, ← List.append_assoc, List.append_assoc sign]
      exact numberLiteral_hexadecimal type (by cases capital <;> simp) split apart isSuffix
    · rw [literalNumber?_hexadecimal noQuote isHexadecimal, isHexadecimal]
      simp

end DeclaredInteger

/-! ## Decimal fractions -/

/-- A literal that is recognized keeps its number if a digit follows its decimal point and its
number is not too large for the parameter. -/
theorem DeclaredReal.numberLiteral_chars {literal : DeclaredReal}
    (recognized : isUnsignedNumber literal.chars = true) (type : String)
    {sign : List Char} (isSign : sign ∈ signs) :
    ∃ emitted,
      numberLiteral type (.ofList (sign ++ literal.chars)) = .ofList (sign ++ emitted) ∧
      (literalNumber? emitted = some literal.value ↔
        literal.fraction ≠ some [] ∧ literal.value < limitFor type) := by
  have noQuote : '\'' ∉ literal.core := by
    intro member
    have isNumber := isNumberChar_of_isUnsignedNumber recognized '\''
      (List.mem_append_left _ member)
    exact absurd isNumber (by decide)
  refine ⟨literal.core ++ singleMark type, ?_, ?_⟩
  · have plain : ∀ c ∈ sign ++ literal.core, isPlainChar c = true := by
      refine List.forall_mem_append.mpr ⟨isPlainChar_of_mem_sign isSign, fun c member => ?_⟩
      rw [isPlainChar, Bool.or_eq_true, List.contains_iff_mem]
      exact core_chars noQuote c member
    have suffixes : realSuffixes.all (·.all Text.isNumberSuffix) = true := by decide
    rw [DeclaredReal.chars, ← List.append_assoc, ← List.append_assoc]
    exact numberLiteral_decimal type plain
      (List.all_eq_true.mp (List.all_eq_true.mp suffixes _ literal.isSuffix))
  · rw [literalNumber?_core noQuote (singleMark_cases type).1 (singleMark_cases type).2]
    split
    · rename_i kept
      simp [kept]
    · rename_i lost
      simp only [reduceCtorEq, false_iff]
      exact lost

end HeaderBindings.Managed
