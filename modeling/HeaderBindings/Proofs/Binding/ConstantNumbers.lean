import HeaderBindings.Binding.Managed.Source
import HeaderBindings.Proofs.Binding.NumberLiterals
import HeaderBindings.Proofs.Text.Pascal
import HeaderBindings.Proofs.Text.WordRun

/-!
# Number literals in enums

The value of an enum constant is taken over word by word.  An integer literal
without quotes is one word.  It loses its suffix if the suffix is known and the
base is not two.  A quote ends a word and stays.
-/

namespace HeaderBindings.Managed

/-! ## Enum constants -/

section Constants

theorem isNameChar_of_isHexDigit {c : Char} (digit : Text.isHexDigit c = true) :
    Text.isNameChar c = true := by
  have ascii : c.toNat < 128 := by
    simp only [Text.isHexDigit, Char.isDigit, Bool.or_eq_true, Bool.and_eq_true, decide_eq_true_eq,
      Char.le_def, ge_iff_le, UInt32.le_iff_toNat_le] at digit
    rcases digit with (digit | lower) | upper
    · exact Nat.lt_of_le_of_lt digit.2 (by decide)
    · exact Nat.lt_of_le_of_lt lower.2 (by decide)
    · exact Nat.lt_of_le_of_lt upper.2 (by decide)
  exact Text.of_ascii (p := fun c => Text.isHexDigit c = true → Text.isNameChar c = true)
    (by decide) ascii digit

/-- A sign in front of the value of a constant is kept. -/
theorem constantValue_signed (names : EnumNames) {sign text : List Char}
    (isSign : sign ∈ signs) :
    constantValue names (.ofList (sign ++ text)) =
      .ofList (sign ++ (constantValue names (.ofList text)).toList) := by
  have gaps : ∀ c ∈ ['-', '+'], Text.isWord c = false :=
    List.all_iff_forall_prop.mp (by decide +kernel)
  rcases mem_signs.mp isSign with rfl | rfl | rfl
  · rw [List.nil_append, List.nil_append, String.ofList_toList]
  · rw [constantValue, constantValue]
    simp [Text.mapWords_gap (gaps '-' (by simp))]
  · rw [constantValue, constantValue]
    simp [Text.mapWords_gap (gaps '+' (by simp))]

/-- A word that starts with a digit is no constant. -/
theorem renameConstant_digit (names : EnumNames) {c : Char} (digit : c.isDigit = true)
    (rest : List Char) : renameConstant names (c :: rest) = c :: rest := by
  have ascii := Text.ascii_of_isNameChar (isNameChar_of_isHexDigit (isHexDigit_of_isDigit c digit))
  have notStart : (c.isAlpha || c == '_') = false :=
    Text.of_ascii (p := fun c => c.isDigit = true → (c.isAlpha || c == '_') = false) (by decide)
      ascii digit
  rw [renameConstant, List.head?_cons, Option.any_some, notStart, if_neg Bool.false_ne_true]

/-- The value of a constant that is one word with a digit in front. -/
theorem constantValue_word (names : EnumNames) {word rewritten : List Char} {c : Char}
    {rest : List Char} (isRun : ∀ c ∈ word, Text.isWord c = true) (nonempty : word ≠ [])
    (isRewritten : dropLiteralSuffix word = rewritten)
    (rewrittenRun : ∀ c ∈ rewritten, Text.isWord c = true)
    (split : rewritten = c :: rest) (digit : c.isDigit = true) :
    constantValue names (.ofList word) = .ofList rewritten := by
  rw [constantValue, String.toList_ofList, Text.mapWords_run nonempty isRun, isRewritten,
    Text.mapWords_run (by simp [split]) rewrittenRun, split, renameConstant_digit names digit]

/-- Only a word that has nothing but digits in front of its suffix is changed. -/
theorem dropLiteralSuffix_cases (word : List Char) :
    dropLiteralSuffix word = word ∨
      ∀ c ∈ Text.dropEndWhile Text.isIntegerSuffix word,
        Text.isHexDigit c = true ∨ c ∈ ['x', 'X'] := by
  have hexadecimal {rest : List Char} {mark : Char} (isMark : mark ∈ ['x', 'X'])
      (isInteger : (!rest.isEmpty && rest.all Text.isHexDigit) = true) :
      ∀ c ∈ '0' :: mark :: rest, Text.isHexDigit c = true ∨ c ∈ ['x', 'X'] := by
    refine List.forall_mem_cons.mpr ⟨Or.inl rfl, List.forall_mem_cons.mpr ⟨Or.inr isMark, ?_⟩⟩
    exact fun c member =>
      Or.inl (List.all_eq_true.mp (Bool.and_eq_true_iff.mp isInteger).2 c member)
  have decimal {digits : List Char}
      (isInteger : (!digits.isEmpty && digits.all Char.isDigit) = true) :
      ∀ c ∈ digits, Text.isHexDigit c = true ∨ c ∈ ['x', 'X'] := by
    intro c member
    have digit := List.all_eq_true.mp (Bool.and_eq_true_iff.mp isInteger).2 c member
    exact Or.inl (isHexDigit_of_isDigit c digit)
  rw [dropLiteralSuffix]
  generalize Text.dropEndWhile Text.isIntegerSuffix word = digits
  split
  · split
    · rename_i isInteger
      exact Or.inr (hexadecimal (by simp) isInteger)
    · exact Or.inl rfl
  · split
    · rename_i isInteger
      exact Or.inr (hexadecimal (by simp) isInteger)
    · exact Or.inl rfl
  · split
    · rename_i isInteger
      exact Or.inr (decimal isInteger)
    · exact Or.inl rfl

/-- A word with a letter of an unknown suffix stays. -/
theorem dropLiteralSuffix_unknown {word : List Char} {c : Char} (member : c ∈ word)
    (unknown : c = 'z' ∨ c = 'Z') : dropLiteralSuffix word = word := by
  have kept : c ∈ Text.dropEndWhile Text.isIntegerSuffix word := by
    have whole : Text.dropEndWhile Text.isIntegerSuffix word ++
        word.rtakeWhile Text.isIntegerSuffix = word :=
      List.rdropWhile_append_rtakeWhile
    rw [← whole] at member
    rcases List.mem_append.mp member with inDigits | inSuffix
    · exact inDigits
    · have isSuffix := List.mem_rtakeWhile_imp inSuffix
      rcases unknown with rfl | rfl <;> cases isSuffix
  rcases dropLiteralSuffix_cases word with same | digits
  · exact same
  · have impossible := digits c kept
    rcases unknown with rfl | rfl
    · exact absurd impossible (by decide)
    · exact absurd impossible (by decide)

/-- Digits lose a known suffix. -/
theorem dropLiteralSuffix_digits {digits suffix : List Char} (all : AllDigits Char.isDigit digits)
    (isSuffix : ∀ c ∈ suffix, Text.isIntegerSuffix c = true) :
    dropLiteralSuffix (digits ++ suffix) = digits := by
  have front : Text.dropEndWhile Text.isIntegerSuffix (digits ++ suffix) = digits :=
    dropEndWhile_suffix (fun c member => isIntegerSuffix_of_isHexDigit
      (isHexDigit_of_isDigit c (all.digits c member))) isSuffix
  have isInteger : (!digits.isEmpty && digits.all Char.isDigit) = true := by
    simp [all.nonempty, List.all_eq_true.mpr all.digits]
  rw [dropLiteralSuffix, front]
  split
  · exact absurd (all.digits 'x' (by simp)) (by decide)
  · exact absurd (all.digits 'X' (by simp)) (by decide)
  · rw [if_pos isInteger]

/-- Digits behind the mark of a base lose a known suffix if the base is sixteen. -/
theorem dropLiteralSuffix_prefixed {digits suffix : List Char} {mark : Char}
    (isMark : mark ∈ ['x', 'X', 'b', 'B']) (all : AllDigits Text.isHexDigit digits)
    (isSuffix : ∀ c ∈ suffix, Text.isIntegerSuffix c = true) :
    dropLiteralSuffix ('0' :: mark :: (digits ++ suffix)) =
      '0' :: mark :: (if mark ∈ ['x', 'X'] then digits else digits ++ suffix) := by
  have marks : ∀ c ∈ ['x', 'X', 'b', 'B'], Text.isIntegerSuffix c = false :=
    List.all_iff_forall_prop.mp (by decide)
  have front : Text.dropEndWhile Text.isIntegerSuffix ('0' :: mark :: (digits ++ suffix)) =
      '0' :: mark :: digits := by
    refine @dropEndWhile_suffix ('0' :: mark :: digits) _ _ ?_ isSuffix
    exact List.forall_mem_cons.mpr ⟨rfl, List.forall_mem_cons.mpr
      ⟨marks mark isMark, fun c member => isIntegerSuffix_of_isHexDigit (all.digits c member)⟩⟩
  have isInteger : (!digits.isEmpty && digits.all Text.isHexDigit) = true := by
    simp [all.nonempty, List.all_eq_true.mpr all.digits]
  rw [dropLiteralSuffix, front]
  simp only [List.mem_cons, List.not_mem_nil, or_false] at isMark
  rcases isMark with rfl | rfl | rfl | rfl
  · exact if_pos isInteger
  · exact if_pos isInteger
  · rfl
  · rfl

end Constants

namespace DeclaredInteger

variable {literal : DeclaredInteger}

/-- What stays of a known suffix in an enum. -/
def keptSuffix (literal : DeclaredInteger) : List Char :=
  match literal.radix with
  | .binary _ => literal.suffix
  | _ => []

theorem keptSuffix_prefix : literal.keptSuffix <+: literal.suffix := by
  rw [keptSuffix]
  split
  · exact List.prefix_refl _
  · exact List.nil_prefix

theorem keptSuffix_eq_nil (notBinary : ∀ capital, literal.radix ≠ .binary capital) :
    literal.keptSuffix = [] := by
  rw [keptSuffix]
  split
  · rename_i capital isBinary
    exact absurd isBinary (notBinary capital)
  · rfl

section Plain

variable (noQuote : '\'' ∉ literal.digits)

include noQuote

/-- A literal without quotes is one word. -/
theorem isWord_chars : ∀ c ∈ literal.chars, Text.isWord c = true := by
  have leads : ∀ radix : Radix, radix.lead.all Text.isNameChar = true := by
    intro radix
    cases radix with
    | binary capital => cases capital <;> decide
    | octal => decide
    | decimal => decide
    | hexadecimal capital => cases capital <;> decide
  have marks : (unsignedMarks ++ sizeMarks).flatten.all Text.isNameChar = true := by decide
  intro c member
  apply Text.isWord_of_isNameChar
  simp only [chars, List.mem_append] at member
  rcases member with inLead | inDigits | inSuffix
  · exact List.all_eq_true.mp (leads _) c inLead
  · exact isNameChar_of_isHexDigit (isHexDigit_digits noQuote c inDigits)
  · exact List.all_eq_true.mp marks c (mem_marks_of_mem_suffix inSuffix)

/-- In base two a suffix stays, in other bases a known one goes. -/
theorem dropLiteralSuffix_chars (isSuffix : ∀ c ∈ literal.suffix, Text.isIntegerSuffix c = true) :
    dropLiteralSuffix literal.chars =
      literal.radix.lead ++ (literal.digits ++ literal.keptSuffix) := by
  have prefixed {mark : Char} (isMark : mark ∈ ['x', 'X', 'b', 'B']) :=
    dropLiteralSuffix_prefixed isMark ⟨(allDigits noQuote).nonempty, isHexDigit_digits noQuote⟩
      isSuffix
  rw [chars, keptSuffix]
  rcases literal.radix.prefix_cases with ⟨capital, isBinary⟩ | unprefixed | ⟨capital, isHexadecimal⟩
  · rw [isBinary]
    cases capital
    · exact prefixed (by simp)
    · exact prefixed (by simp)
  · have decimal := dropLiteralSuffix_digits (decimalDigits noQuote unprefixed) isSuffix
    rcases unprefixed with isOctal | isDecimal
    · simpa [isOctal, Radix.lead] using decimal
    · simpa [isDecimal, Radix.lead] using decimal
  · rw [isHexadecimal, List.append_nil]
    cases capital
    · exact prefixed (by simp)
    · exact prefixed (by simp)

/-- What stays of a literal. -/
theorem constantValue_rest (names : EnumNames) {rest : List Char} (isRest : rest <+: literal.suffix)
    (kept : dropLiteralSuffix literal.chars = literal.radix.lead ++ (literal.digits ++ rest)) :
    constantValue names (.ofList literal.chars) =
      .ofList (literal.radix.lead ++ (literal.digits ++ rest)) := by
  rcases exists_digit literal with ⟨c, later, starts, digit⟩
  have words := isWord_chars noQuote
  have nonempty : literal.chars ≠ [] := by
    rw [chars, ← List.append_assoc, starts]
    simp
  have isPrefix : literal.radix.lead ++ (literal.digits ++ rest) <+: literal.chars :=
    (List.prefix_append_right_inj _).mpr ((List.prefix_append_right_inj _).mpr isRest)
  have rewritten := fun c member => words c (isPrefix.subset member)
  apply constantValue_word names words nonempty kept rewritten
  · rw [← List.append_assoc, starts, List.cons_append]
  · exact digit

end Plain

/-- What a literal must be like to keep its number as the value of an enum constant. -/
structure KeptInEnum (literal : DeclaredInteger) : Prop where
  noQuote : '\'' ∉ literal.digits
  known : literal.sizeMark ∉ sizeTypeMarks
  octal : literal.radix = .octal → literal.value < 8
  binary : ∀ capital, literal.radix = .binary capital →
    literal.sizeMark ∉ longLongMarks

/-- The suffixes that are known; not all of them are suffixes of C#. -/
theorem suffix_of_known (known : literal.sizeMark ∉ sizeTypeMarks) :
    (∀ c ∈ literal.suffix, Text.isIntegerSuffix c = true) ∧
      (literal.suffix ∈ integerSuffixes ↔ literal.sizeMark ∉ longLongMarks) := by
  have marks : ∀ unsignedMark ∈ unsignedMarks, ∀ sizeMark ∈ sizeMarks,
      sizeMark ∉ sizeTypeMarks → ∀ sizeFirst : Bool,
      let suffix := if sizeFirst then sizeMark ++ unsignedMark else unsignedMark ++ sizeMark
      suffix.all Text.isIntegerSuffix = true ∧
        (suffix ∈ integerSuffixes ↔ sizeMark ∉ longLongMarks) := by
    decide
  exact (marks _ literal.isUnsignedMark _ literal.isSizeMark known literal.sizeFirst).imp_left
    List.all_eq_true.mp

/-- A literal in base two keeps its suffix, which has to be one of C#. -/
theorem literalNumber?_binary {capital : Bool} (noQuote : '\'' ∉ literal.digits)
    (isBinary : literal.radix = .binary capital) (known : literal.sizeMark ∉ sizeTypeMarks) :
    literalNumber? literal.chars = some (literal.value : ℚ) ↔
      literal.sizeMark ∉ longLongMarks := by
  have all : AllDigits isBinaryDigit literal.digits := by
    have all := allDigits noQuote
    rwa [isBinary] at all
  have isValue : literal.value = Text.numberOf 2 literal.digits := by
    rw [value_eq noQuote, isBinary]
    rfl
  have ends : ∀ c ∈ literal.suffix.head?, isSpacedDigit isBinaryDigit c = false := by
    intro c first
    have letter := (suffix_of_known known).1 c (List.mem_of_head? first)
    simp only [Text.isIntegerSuffix, Bool.or_eq_true, beq_iff_eq] at letter
    rcases letter with ((rfl | rfl) | rfl) | rfl <;> rfl
  have integer : integerNumber? literal.chars =
      digitsNumber? 2 isBinaryDigit (literal.digits ++ literal.suffix) := by
    rw [chars, isBinary]
    cases capital <;> rfl
  have real : realNumber? literal.chars = none := by
    rw [chars, isBinary]
    cases capital <;> rfl
  have read : literalNumber? literal.chars =
      digitsNumber? 2 isBinaryDigit (literal.digits ++ literal.suffix) := by
    rw [literalNumber?, integer, real]
    simp
  rw [read, digitsNumber?_append all ends, ← (suffix_of_known known).2, ← isValue,
    decide_eq_true literal.value_lt]
  simp

theorem mem_suffix_of_unknown (unknown : ¬ literal.sizeMark ∉ sizeTypeMarks) :
    ∃ c ∈ literal.suffix, c = 'z' ∨ c = 'Z' := by
  have isUnknown := not_not.mp unknown
  simp only [sizeTypeMarks, List.mem_cons, List.not_mem_nil, or_false] at isUnknown
  rcases isUnknown with small | capital
  · exact ⟨'z', mem_suffix_iff.mpr (Or.inr (by simp [small])), Or.inl rfl⟩
  · exact ⟨'Z', mem_suffix_iff.mpr (Or.inr (by simp [capital])), Or.inr rfl⟩

/-- A literal without quotes and with a known suffix. -/
theorem literalNumber?_constantValue (names : EnumNames) (noQuote : '\'' ∉ literal.digits)
    (known : literal.sizeMark ∉ sizeTypeMarks) :
    literalNumber? (constantValue names (.ofList literal.chars)).toList =
      some (literal.value : ℚ) ↔ literal.KeptInEnum := by
  have kept := dropLiteralSuffix_chars noQuote (suffix_of_known known).1
  rw [constantValue_rest noQuote names keptSuffix_prefix kept, String.toList_ofList]
  rcases literal.radix.prefix_cases with ⟨capital, isBinary⟩ | unprefixed | ⟨capital, isHexadecimal⟩
  · have whole : literal.radix.lead ++ (literal.digits ++ literal.keptSuffix) = literal.chars := by
      rw [keptSuffix, isBinary, chars, isBinary]
    rw [whole, literalNumber?_binary noQuote isBinary known]
    exact ⟨fun binary => ⟨noQuote, known, by simp [isBinary], fun _ _ => binary⟩,
      fun keeps => keeps.binary capital isBinary⟩
  · have notBinary : ∀ capital, literal.radix ≠ .binary capital := by
      rcases unprefixed with isOctal | isDecimal
      · simp [isOctal]
      · simp [isDecimal]
    rw [keptSuffix_eq_nil notBinary, Radix.lead_eq_nil unprefixed, List.nil_append,
      literalNumber?_unprefixed noQuote unprefixed (Or.inl rfl)]
    exact ⟨fun octal => ⟨noQuote, known, octal, fun capital isBinary =>
      absurd isBinary (notBinary capital)⟩, fun keeps => keeps.octal⟩
  · have notBinary : ∀ capital, literal.radix ≠ .binary capital := by simp [isHexadecimal]
    rw [keptSuffix_eq_nil notBinary, List.append_nil,
      literalNumber?_hexadecimal noQuote isHexadecimal]
    exact iff_of_true rfl ⟨noQuote, known, by simp [isHexadecimal], fun capital isBinary =>
      absurd isBinary (notBinary capital)⟩

/-- A literal as the value of an enum constant. -/
theorem constantValue_chars (literal : DeclaredInteger) (names : EnumNames) {sign : List Char}
    (isSign : sign ∈ signs) :
    ∃ emitted,
      constantValue names (.ofList (sign ++ literal.chars)) = .ofList (sign ++ emitted) ∧
      (literalNumber? emitted = some (literal.value : ℚ) ↔ literal.KeptInEnum) := by
  rw [constantValue_signed names isSign]
  refine ⟨(constantValue names (.ofList literal.chars)).toList, rfl, ?_⟩
  by_cases noQuote : '\'' ∉ literal.digits
  · by_cases known : literal.sizeMark ∉ sizeTypeMarks
    · exact literalNumber?_constantValue names noQuote known
    · rcases mem_suffix_of_unknown known with ⟨c, member, isUnknown⟩
      have inChars : c ∈ literal.chars := by simp [chars, member]
      have kept := dropLiteralSuffix_unknown inChars isUnknown
      rw [constantValue_rest noQuote names (List.prefix_refl _) kept, String.toList_ofList]
      refine iff_of_false (fun read => ?_) fun keeps => known keeps.known
      have isChar := isLiteralChar_of_literalNumber? read c inChars
      rcases isUnknown with rfl | rfl <;> cases isChar
  · refine iff_of_false (fun read => ?_) fun keeps => noQuote keeps.noQuote
    have inChars : '\'' ∈ literal.chars := by simp [chars, not_not.mp noQuote]
    have notWord : Text.isWord '\'' = false := by decide +kernel
    have kept : '\'' ∈ (constantValue names (.ofList literal.chars)).toList := by
      rw [constantValue, String.toList_ofList, String.toList_ofList]
      exact Text.mem_mapWords (Text.mem_mapWords inChars notWord) notWord
    exact absurd (isLiteralChar_of_literalNumber? read _ kept) (by decide)

end DeclaredInteger

end HeaderBindings.Managed
