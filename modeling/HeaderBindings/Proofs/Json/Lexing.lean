import HeaderBindings.Json.Printer
import HeaderBindings.Json.Reader
import Mathlib.Tactic.SplitIfs

/-!
# Tokens of a written text

What the printer writes for a character inside a string is read as that
character: as it stands, by a one-letter escape, or by the numbers of its
sixteen-bit units.  So a written string is one token.  Blanks between tokens do
not count, and a word ends before any character that cannot go on a word.
-/

namespace HeaderBindings.Json

variable {state next : LexState} {c : Char} {rest read : List Char}

theorem tokens?_cons {completed : List Token}
    (step : lexStep state c = some (next, completed)) :
    tokens? state (c :: rest) = (tokens? next rest).map (completed ++ ·) := by
  simp only [tokens?, step, Option.bind_eq_bind, Option.bind_some]
  cases tokens? next rest <;> rfl

theorem tokens?_cons_silent (step : lexStep state c = some (next, [])) :
    tokens? state (c :: rest) = tokens? next rest := by
  rw [tokens?_cons step]
  simp

/-! ## Characters inside a string -/

/-- The characters that have an escape of one letter. -/
def shortEscapes : List (Char × Char) := [
  ('"', '"'), ('\\', '\\'), ('\n', 'n'), ('\r', 'r'), ('\t', 't'), ('\x08', 'b'), ('\x0C', 'f')]

theorem writeChar_eq (charset : Charset) (c : Char) :
    writeChar charset c =
      match shortEscapes.lookup c with
      | some letter => ['\\', letter]
      | none =>
        if c.toNat < 0x20 then unitEscape c.toNat
        else if c.toNat < 0x80 then [c]
        else
          match charset with
          | .unicode => [c]
          | .ascii => (utf16Units c.toNat).flatMap unitEscape := by
  have lookup (key value : Char) (table : List (Char × Char)) :
      ((key, value) :: table).lookup c = if c = key then some value else table.lookup c := by
    rw [List.lookup_cons]
    by_cases same : c = key
    · rw [if_pos same, beq_iff_eq.mpr same]
    · rw [if_neg same, beq_eq_false_iff_ne.mpr same]
  simp only [shortEscapes, lookup, List.lookup_nil]
  unfold writeChar
  split_ifs <;> rfl

theorem escaped?_of_lookup {letter : Char} (short : shortEscapes.lookup c = some letter) :
    letter ≠ 'u' ∧ escaped? letter = some c := by
  have all : ∀ entry ∈ shortEscapes, entry.2 ≠ 'u' ∧ escaped? entry.2 = some entry.1 := by decide
  rcases List.lookup_eq_some_iff.mp short with ⟨before, after, table, _⟩
  exact all (c, letter) (by simp [table])

theorem hexValue?_hexDigit {n : Nat} (small : n < 16) : hexValue? (hexDigit n) = some n := by
  have all : ∀ digit : Fin 16, hexValue? (hexDigit digit) = some digit.val := by decide
  exact all ⟨n, small⟩

/-- Four digits are read as the unit that they were written for. -/
theorem tokens?_hexUnit {high : Option Nat} {unit : Nat} (small : unit < 0x10000) :
    tokens? (.unit read high []) (hexUnit unit ++ rest) =
      (lexUnit read high unit).bind fun next => tokens? next rest := by
  have digit {n : Nat} {digits more : List Char} (isDigit : n < 16) (short : digits.length < 3) :
      tokens? (.unit read high digits) (hexDigit n :: more) =
        tokens? (.unit read high (hexDigit n :: digits)) more := by
    apply tokens?_cons_silent
    simp [lexStep, short, hexValue?_hexDigit isDigit]
  have first : unit / 0x1000 % 16 < 16 := Nat.mod_lt _ (by decide)
  have second : unit / 0x100 % 16 < 16 := Nat.mod_lt _ (by decide)
  have third : unit / 16 % 16 < 16 := Nat.mod_lt _ (by decide)
  have fourth : unit % 16 < 16 := Nat.mod_lt _ (by decide)
  have value : unitValue? [hexDigit (unit % 16), hexDigit (unit / 16 % 16),
      hexDigit (unit / 0x100 % 16), hexDigit (unit / 0x1000 % 16)] = some unit := by
    simp only [unitValue?, hexValue?_hexDigit first, hexValue?_hexDigit second,
      hexValue?_hexDigit third, hexValue?_hexDigit fourth, Option.bind_eq_bind,
      Option.bind_some, Option.pure_def, Option.some.injEq]
    omega
  simp only [hexUnit, List.cons_append, List.nil_append]
  rw [digit first (by simp), digit second (by simp), digit third (by simp)]
  cases after : lexUnit read high unit with
  | none => simp [tokens?, lexStep, value, after]
  | some next =>
      rw [Option.bind_some]
      apply tokens?_cons_silent
      simp [lexStep, value, after]

theorem tokens?_unitEscape {unit : Nat} (small : unit < 0x10000) :
    tokens? (.text read) (unitEscape unit ++ rest) =
      (lexUnit read none unit).bind fun next => tokens? next rest := by
  rw [unitEscape, List.cons_append, List.cons_append, ← tokens?_hexUnit small]
  rw [tokens?_cons_silent (by rfl), tokens?_cons_silent (by rfl)]

theorem tokens?_plain
    (noQuote : c ≠ '"') (noBackslash : c ≠ '\\') (printed : ¬ c.toNat < 0x20) :
    tokens? (.text read) (c :: rest) = tokens? (.text (c :: read)) rest := by
  apply tokens?_cons_silent
  simp [lexStep, noQuote, noBackslash, printed]

theorem tokens?_escape {letter : Char}
    (notUnit : letter ≠ 'u') (stands : escaped? letter = some c) :
    tokens? (.text read) ('\\' :: letter :: rest) = tokens? (.text (c :: read)) rest := by
  have opened : tokens? (.text read) ('\\' :: letter :: rest) =
      tokens? (.escape read) (letter :: rest) :=
    tokens?_cons_silent rfl
  rw [opened]
  apply tokens?_cons_silent
  simp [lexStep, notUnit, stands]

/-- The second unit of a pair completes the character that the first one began. -/
theorem tokens?_secondUnit {high low : Nat} (isLow : 0xDC00 ≤ low ∧ low ≤ 0xDFFF) :
    tokens? (.pair read high) (unitEscape low ++ rest) =
      tokens? (.text (Char.ofNat (0x10000 + (high - 0xD800) * 0x400 + (low - 0xDC00)) :: read))
        rest := by
  have opened : tokens? (.pair read high) (unitEscape low ++ rest) =
      tokens? (.pairEscape read high) ('u' :: hexUnit low ++ rest) :=
    tokens?_cons_silent rfl
  have number : tokens? (.pairEscape read high) ('u' :: hexUnit low ++ rest) =
      tokens? (.unit read (some high) []) (hexUnit low ++ rest) :=
    tokens?_cons_silent rfl
  rw [opened, number, tokens?_hexUnit (by omega), lexUnit, if_pos isLow, Option.bind_some]

/-- The units of a character are read as that character. -/
theorem tokens?_units :
    tokens? (.text read) ((utf16Units c.toNat).flatMap unitEscape ++ rest) =
      tokens? (.text (c :: read)) rest := by
  have valid : c.toNat < 0xD800 ∨ 0xDFFF < c.toNat ∧ c.toNat < 0x110000 := c.valid
  by_cases single : c.toNat < 0x10000
  · have unit : lexUnit read none c.toNat = some (.text (c :: read)) := by
      have notHigh : ¬ (0xD800 ≤ c.toNat ∧ c.toNat ≤ 0xDBFF) := by omega
      have notLow : ¬ (0xDC00 ≤ c.toNat ∧ c.toNat ≤ 0xDFFF) := by omega
      rw [lexUnit, if_neg notHigh, if_neg notLow, Char.ofNat_toNat]
    rw [utf16Units, if_pos single, List.flatMap_singleton, tokens?_unitEscape single, unit,
      Option.bind_some]
  · -- A code point beyond the first plane is split into two halves, each with its own range.
    have isHigh : 0xD800 ≤ 0xD800 + (c.toNat - 0x10000) / 0x400 ∧
        0xD800 + (c.toNat - 0x10000) / 0x400 ≤ 0xDBFF := by omega
    have isLow : 0xDC00 ≤ 0xDC00 + (c.toNat - 0x10000) % 0x400 ∧
        0xDC00 + (c.toNat - 0x10000) % 0x400 ≤ 0xDFFF := by omega
    have joined : 0x10000 + (0xD800 + (c.toNat - 0x10000) / 0x400 - 0xD800) * 0x400 +
        (0xDC00 + (c.toNat - 0x10000) % 0x400 - 0xDC00) = c.toNat := by omega
    have first : lexUnit read none (0xD800 + (c.toNat - 0x10000) / 0x400) =
        some (.pair read (0xD800 + (c.toNat - 0x10000) / 0x400)) := by
      rw [lexUnit, if_pos isHigh]
    rw [utf16Units, if_neg single, List.flatMap_cons, List.flatMap_singleton, List.append_assoc,
      tokens?_unitEscape (by omega), first, Option.bind_some, tokens?_secondUnit isLow, joined,
      Char.ofNat_toNat]

/-- However a character is written, it is read as it was. -/
theorem tokens?_writeChar (charset : Charset) :
    tokens? (.text read) (writeChar charset c ++ rest) = tokens? (.text (c :: read)) rest := by
  rw [writeChar_eq]
  cases short : shortEscapes.lookup c with
  | some letter =>
      rcases escaped?_of_lookup short with ⟨notUnit, stands⟩
      exact tokens?_escape notUnit stands
  | none =>
      have noQuote : c ≠ '"' := by
        rintro rfl
        cases short
      have noBackslash : c ≠ '\\' := by
        rintro rfl
        cases short
      dsimp only
      split
      · rename_i control
        have unit : lexUnit read none c.toNat = some (.text (c :: read)) := by
          rw [lexUnit, if_neg (by omega), if_neg (by omega), Char.ofNat_toNat]
        rw [tokens?_unitEscape (by omega), unit, Option.bind_some]
      · rename_i printed
        have plain : tokens? (.text read) ([c] ++ rest) = tokens? (.text (c :: read)) rest :=
          tokens?_plain noQuote noBackslash printed
        split
        · exact plain
        · cases charset with
          | unicode => exact plain
          | ascii => exact tokens?_units

/-! ## Tokens -/

theorem tokens?_string (charset : Charset) (text : List Char) :
    tokens? (.text read) (text.flatMap (writeChar charset) ++ '"' :: rest) =
      (tokens? .between rest).map (.string (read.reverse ++ text) :: ·) := by
  induction text generalizing read with
  | nil =>
      rw [List.flatMap_nil, List.nil_append, List.append_nil]
      have closed : lexStep (.text read) '"' = some (.between, [.string read.reverse]) := by
        simp [lexStep]
      exact tokens?_cons closed
  | cons c text ih =>
      rw [List.flatMap_cons, List.append_assoc, tokens?_writeChar, ih, List.reverse_cons,
        List.append_assoc, List.singleton_append]

/-- The tokens that a text is read as. -/
def Reads (text : List Char) (tokens : List Token) : Prop :=
  tokens? .between text = some tokens

/-- Whether a text starts with a character that cannot go on a word. -/
def EndsWord (text : List Char) : Prop :=
  text.head?.any isScalarChar = false

section Reads

variable {text : List Char} {tokens : List Token}

theorem Reads.nil : Reads [] [] :=
  rfl

theorem Reads.space (reads : Reads text tokens) (blank : isSpace c = true) :
    Reads (c :: text) tokens := by
  rw [Reads, tokens?_cons_silent]
  · exact reads
  · rw [lexStep, lexBetween, if_pos blank]

theorem Reads.punctuation {token : Token}
    (reads : Reads text tokens) (isToken : punctuation? c = some token) :
    Reads (c :: text) (token :: tokens) := by
  have marks : c ∈ ['\x7b', '\x7d', '[', ']', ',', ':'] := by
    rw [punctuation?] at isToken
    split_ifs at isToken <;> simp [*]
  have apart : ['\x7b', '\x7d', '[', ']', ',', ':'].all (fun mark =>
      !(isSpace mark || mark == '"' || isScalarChar mark)) = true := by decide
  have other := List.all_eq_true.mp apart c marks
  simp only [Bool.not_eq_true', Bool.or_eq_false_iff, beq_eq_false_iff_ne] at other
  rcases other with ⟨⟨noSpace, noQuote⟩, noScalar⟩
  have step : lexStep .between c = some (.between, [token]) := by
    simp [lexStep, lexBetween, noSpace, noQuote, noScalar, isToken]
  rw [Reads, tokens?_cons step, reads]
  rfl

theorem Reads.string (reads : Reads text tokens) (charset : Charset) (content : String) :
    Reads (writeString charset content ++ text) (.string content.toList :: tokens) := by
  have opened : lexStep .between '"' = some (.text [], []) := by
    simp [lexStep, lexBetween, isSpace]
  rw [Reads, writeString, List.cons_append, List.cons_append, List.append_assoc,
    List.singleton_append, tokens?_cons_silent opened, tokens?_string, reads]
  rfl

/-- A word ends where the text goes on without a character of a word. -/
theorem tokens?_scalar_end {value : Value}
    (reads : Reads text tokens) (ends : EndsWord text) (stands : scalar? read.reverse = some value) :
    tokens? (.scalar read) text = some (.scalar value :: tokens) := by
  cases text with
  | nil =>
      cases reads
      rw [tokens?, stands]
      rfl
  | cons d more =>
      have other : isScalarChar d = false := ends
      cases first : lexBetween d with
      | none => simp [Reads, tokens?, lexStep, first] at reads
      | some result =>
          rcases result with ⟨next, completed⟩
          have step : lexStep .between d = some (next, completed) := first
          have stepAfter : lexStep (.scalar read) d = some (next, .scalar value :: completed) := by
            simp [lexStep, other, stands, first]
          rw [Reads, tokens?_cons step, Option.map_eq_some_iff] at reads
          rcases reads with ⟨later, readLater, rfl⟩
          rw [tokens?_cons stepAfter, readLater]
          rfl

theorem tokens?_scalar {value : Value}
    (reads : Reads text tokens) (ends : EndsWord text) {word : List Char}
    (isWord : word.all isScalarChar = true) (stands : scalar? (read.reverse ++ word) = some value) :
    tokens? (.scalar read) (word ++ text) = some (.scalar value :: tokens) := by
  induction word generalizing read with
  | nil =>
      rw [List.append_nil] at stands
      exact tokens?_scalar_end reads ends stands
  | cons c word ih =>
      rw [List.all_cons, Bool.and_eq_true] at isWord
      have step : lexStep (.scalar read) c = some (.scalar (c :: read), []) := by
        simp [lexStep, isWord.1]
      rw [List.cons_append, tokens?_cons_silent step]
      apply ih isWord.2
      rw [List.reverse_cons, List.append_assoc]
      exact stands

theorem Reads.word {value : Value}
    (reads : Reads text tokens) (ends : EndsWord text) {word : List Char}
    (isWord : word.all isScalarChar = true) (stands : scalar? word = some value) :
    Reads (word ++ text) (.scalar value :: tokens) := by
  cases word with
  | nil => cases stands
  | cons c word =>
      rw [List.all_cons, Bool.and_eq_true] at isWord
      have noSpace : isSpace c = false := by
        rw [Bool.eq_false_iff]
        intro blank
        have isBlank : c ∈ [' ', '\n', '\r', '\t'] := by
          simpa [isSpace, or_assoc] using blank
        have apart : [' ', '\n', '\r', '\t'].all (fun blank => !isScalarChar blank) = true := by
          decide
        have noScalar := List.all_eq_true.mp apart c isBlank
        rw [isWord.1] at noScalar
        cases noScalar
      have noQuote : c ≠ '"' := by
        rintro rfl
        cases isWord.1
      have step : lexStep .between c = some (.scalar [c], []) := by
        simp [lexStep, lexBetween, noSpace, noQuote, isWord.1]
      rw [Reads, List.cons_append, tokens?_cons_silent step]
      exact tokens?_scalar reads ends isWord.2 stands

end Reads

end HeaderBindings.Json
