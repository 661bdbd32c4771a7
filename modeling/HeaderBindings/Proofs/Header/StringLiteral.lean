import HeaderBindings.Proofs.Header.DeclarationLine
import HeaderBindings.Proofs.Header.LineComment
import HeaderBindings.Proofs.Text.WordRun

/-!
# String literals

A string literal on one line, with its encoding.  The search for a line comment
follows the quotes and the escapes of a literal, so no comment starts in an
ordinary one.
-/

namespace HeaderBindings.Header

open Text (isBlank isWord Trimmed)

/-! ## Literals -/

/-- A character other than those that end a line. -/
def staysOnLine (c : Char) : Bool :=
  c != '\n' && c != '\r'

/-- The prefixes for the encodings of a literal. -/
def encodings : List String :=
  ["", "u8", "u", "U", "L"]

/-- A part of an ordinary literal. -/
inductive LiteralPart where
  | plain (c : Char) (isPlain : c ≠ '"' ∧ c ≠ '\\' ∧ staysOnLine c = true)
  /-- A backslash with the character that it escapes; further digits of a number are plain parts. -/
  | escape (c : Char) (isEscaped : staysOnLine c = true)

def LiteralPart.chars : LiteralPart → List Char
  | plain c _ => [c]
  | escape c _ => ['\\', c]

/-- A string literal on one line. -/
inductive StringLiteral where
  | ordinary (encoding : String) (isEncoding : encoding ∈ encodings) (parts : List LiteralPart)
  /-- A literal without escapes, which ends at the first parenthesis with the delimiter and a quote
  behind it. -/
  | raw (encoding : String) (isEncoding : encoding ∈ encodings)
    (delimiter : List Char)
    (isDelimiter : ∀ c ∈ delimiter, c ∉ ['(', ')', '\\'] ∧ isBlank c = false)
    (content : List Char)
    (isContent : ¬ ')' :: (delimiter ++ ['"']) <:+: content ∧ ∀ c ∈ content, staysOnLine c = true)

namespace StringLiteral

def encoding : StringLiteral → String
  | ordinary encoding _ _ => encoding
  | raw encoding _ _ _ _ _ => encoding

/-- What stands between the encoding and the last quote. -/
def inner : StringLiteral → List Char
  | ordinary _ _ parts => '"' :: parts.flatMap LiteralPart.chars
  | raw _ _ delimiter _ content _ =>
    'R' :: '"' :: (delimiter ++ '(' :: (content ++ ')' :: delimiter))

def text (literal : StringLiteral) : String :=
  literal.encoding ++ (String.ofList literal.inner).push '"'

theorem isWord_of_mem_encoding (literal : StringLiteral) :
    ∀ c ∈ literal.encoding.toList, isWord c = true := by
  have each : ∀ encoding ∈ encodings, encoding.toList.all isWord = true := by decide
  cases literal with
  | ordinary encoding isEncoding => exact List.all_eq_true.mp (each encoding isEncoding)
  | raw encoding isEncoding => exact List.all_eq_true.mp (each encoding isEncoding)

theorem toList_text (literal : StringLiteral) :
    literal.text.toList = literal.encoding.toList ++ (literal.inner ++ ['"']) := by
  simp [text]

theorem text_nonempty (literal : StringLiteral) : literal.text.toList ≠ [] := by
  simp [toList_text]

theorem text_trimmed (literal : StringLiteral) : Trimmed literal.text := by
  have start : ∃ first, literal.text.toList.head? = some first ∧ isBlank first = false := by
    rw [toList_text]
    cases chars : literal.encoding.toList with
    | nil =>
        cases literal with
        | ordinary => exact ⟨'"', rfl, by decide⟩
        | raw => exact ⟨'R', rfl, by decide⟩
    | cons c rest =>
        have isWordChar := literal.isWord_of_mem_encoding c (by simp [chars])
        exact ⟨c, rfl, Text.isBlank_of_isWord isWordChar⟩
  rcases start with ⟨first, head, firstNotBlank⟩
  refine Text.trimmed_of_ends head firstNotBlank ?_ (by decide : isBlank '"' = false)
  rw [toList_text, ← List.append_assoc, List.getLast?_concat]

end StringLiteral

/-! ## Comments -/

/-- The part as one of any literal in double quotes. -/
def LiteralPart.quoted : LiteralPart → QuotedPart '"'
  | plain c isPlain => .plain c ⟨isPlain.1, isPlain.2.1⟩
  | escape c _ => .escape c

theorem beforeComment?_parts (parts : List LiteralPart) :
    beforeComment? (.literal '"' false) (parts.flatMap LiteralPart.chars ++ ['"']) = none := by
  have same : parts.flatMap LiteralPart.chars =
      (parts.map LiteralPart.quoted).flatMap QuotedPart.chars := by
    rw [List.flatMap_map]
    congr 1
    funext part
    cases part <;> rfl
  rw [same, beforeComment?_quotedParts]
  rfl

/-- No comment starts in an ordinary literal. -/
theorem StringLiteral.beforeComment?_ordinary
    {encoding : String} (isEncoding : encoding ∈ encodings) (parts : List LiteralPart) :
    beforeComment? .code (ordinary encoding isEncoding parts).text.toList = none := by
  have isRun := isWord_of_mem_encoding (ordinary encoding isEncoding parts)
  have noSlash : '/' ∉ encoding.toList := by
    intro slash
    exact Text.ne_of_isWord (isRun '/' slash) (by decide) rfl
  rw [toList_text]
  show beforeComment? .code
    (encoding.toList ++ '"' :: (parts.flatMap LiteralPart.chars ++ ['"'])) = none
  rw [beforeComment?_append]
  · rw [beforeComment?_quote rfl, beforeComment?_parts]
    rfl
  · intro c member
    exact ⟨Text.ne_of_isWord (isRun c member) (by decide),
      Text.ne_of_isWord (isRun c member) (by decide)⟩
  · rintro ⟨before, after, split⟩
    exact noSlash (by simp [← split])
  · simp

section

variable {state : LiteralState} {text more before : List Char}

/-- A text without slashes starts no comment behind another one. -/
theorem beforeComment?_append_eq_none_iff (noSlash : '/' ∉ more) :
    beforeComment? state (text ++ more) = none ↔ beforeComment? state text = none := by
  induction text generalizing state with
  | nil =>
      simp only [List.nil_append, beforeComment?, iff_true]
      induction more generalizing state with
      | nil => rfl
      | cons c more ih =>
          rw [List.mem_cons, not_or] at noSlash
          rw [beforeComment?, if_neg (fun slashes => noSlash.1 slashes.2.1.symm), ih noSlash.2]
          rfl
  | cons c text ih =>
      have sameNext : (text ++ more).head? = some '/' ↔ text.head? = some '/' := by
        cases text with
        | nil =>
            have notNext : more.head? ≠ some '/' := fun next => noSlash (List.mem_of_head? next)
            simp [notNext]
        | cons d text => rfl
      rw [List.cons_append, beforeComment?, beforeComment?]
      simp only [sameNext]
      split
      · simp
      · rw [Option.map_eq_none_iff, Option.map_eq_none_iff, ih]

/-- The text in front of a comment ends before two slashes. -/
theorem length_beforeComment? (found : beforeComment? state text = some before) :
    before.length + 2 ≤ text.length := by
  induction text generalizing state before with
  | nil => cases found
  | cons c text ih =>
      rw [beforeComment?] at found
      split at found
      · rename_i slashes
        cases found
        cases text with
        | nil => cases slashes.2.2
        | cons d text => simp
      · rcases Option.map_eq_some_iff.mp found with ⟨rest, later, rfl⟩
        have shorter := ih later
        simp only [List.length_cons]
        omega

theorem prefix_beforeComment? (found : beforeComment? state text = some before) :
    before <+: text := by
  induction text generalizing state before with
  | nil => cases found
  | cons c text ih =>
      rw [beforeComment?] at found
      split at found
      · cases found
        exact List.nil_prefix
      · rcases Option.map_eq_some_iff.mp found with ⟨rest, later, rfl⟩
        exact List.cons_prefix_cons.mpr ⟨rfl, ih later⟩

end

end HeaderBindings.Header
