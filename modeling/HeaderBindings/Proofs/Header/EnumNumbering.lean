import HeaderBindings.Header.EnumDeclaration
import HeaderBindings.Proofs.Text.Slice
import HeaderBindings.Proofs.Text.WordRun
import Mathlib.Data.Nat.Digits.Defs

/-!
# The numbering of enum constants

A constant without a value has the value that follows the one before it.  The
count restarts at every value that is an integer literal and passes over the
other ones, so it is settled by the last literal and by the number of constants
without a value since.
-/

namespace HeaderBindings.Header

open Text (isBlank)

/-! ## Integer literals -/

/-- How the digits of an integer literal are read. -/
inductive DigitBase where
  | decimal
  /-- Base sixteen, with a prefix in small or capital letters. -/
  | hexadecimal (capital : Bool)

namespace DigitBase

def radix : DigitBase → Nat
  | decimal => 10
  | hexadecimal _ => 16

def lead : DigitBase → List Char
  | decimal => []
  | hexadecimal false => ['0', 'x']
  | hexadecimal true => ['0', 'X']

def isDigit : DigitBase → Char → Bool
  | decimal => Char.isDigit
  | hexadecimal _ => Text.isHexDigit

end DigitBase

/-- An integer literal, of which the suffix says nothing about the value. -/
structure IntegerLiteral where
  negative : Bool := false
  /-- The blanks in front of the digits, behind the sign if there is one. -/
  blanks : List Char := []
  base : DigitBase := .decimal
  digits : List Char
  suffix : List Char := []
  isBlank : ∀ c ∈ blanks, Text.isBlank c = true
  nonempty : digits ≠ []
  isDigit : ∀ c ∈ digits, base.isDigit c = true
  isSuffix : ∀ c ∈ suffix, Text.isIntegerSuffix c = true
  fits : Nat.ofDigits base.radix (digits.map Text.digitValue).reverse < 2 ^ 127

namespace IntegerLiteral

variable (literal : IntegerLiteral)

def magnitude : Nat :=
  Nat.ofDigits literal.base.radix (literal.digits.map Text.digitValue).reverse

def value : Int :=
  if literal.negative then -(literal.magnitude : Int) else literal.magnitude

/-- The prefix, the digits and the suffix. -/
def body : List Char :=
  literal.base.lead ++ (literal.digits ++ literal.suffix)

def text : String :=
  .ofList ((if literal.negative then ['-'] else []) ++ (literal.blanks ++ literal.body))

end IntegerLiteral

theorem numberOf_concat (base : Nat) (digits : List Char) (c : Char) :
    Text.numberOf base (digits ++ [c]) = Text.numberOf base digits * base + Text.digitValue c := by
  simp [Text.numberOf]

theorem numberOf_eq_ofDigits (base : Nat) (digits : List Char) :
    Text.numberOf base digits = Nat.ofDigits base (digits.map Text.digitValue).reverse := by
  induction digits using List.reverseRecOn with
  | nil => rfl
  | append_singleton digits c ih =>
      rw [numberOf_concat, ih, List.map_append, List.reverse_append, List.map_singleton,
        List.reverse_singleton, List.singleton_append, Nat.ofDigits_cons]
      ring

/-- Reads digits and a suffix. -/
def readDigits? (base : DigitBase) (text : List Char) : Option Nat :=
  let digits := text.takeWhile base.isDigit
  if !digits.isEmpty && (text.dropWhile base.isDigit).all Text.isIntegerSuffix then
    some (Text.numberOf base.radix digits)
  else
    none

section

variable {base : DigitBase} {text rest : List Char} {c : Char} {n : Nat}

theorem isDigit_of_isIntegerSuffix (isSuffix : Text.isIntegerSuffix c = true) :
    base.isDigit c = false := by
  simp only [Text.isIntegerSuffix, Bool.or_eq_true, beq_iff_eq] at isSuffix
  rcases isSuffix with ((rfl | rfl) | rfl) | rfl <;> cases base <;> rfl

theorem readDigits?_eq_some_iff :
    readDigits? base text = some n ↔
      ∃ digits suffix, text = digits ++ suffix ∧ digits ≠ [] ∧
        (∀ c ∈ digits, base.isDigit c = true) ∧
        (∀ c ∈ suffix, Text.isIntegerSuffix c = true) ∧
        n = Text.numberOf base.radix digits := by
  unfold readDigits?
  dsimp only
  constructor
  · intro read
    split at read
    · rename_i isLiteral
      simp only [Bool.and_eq_true, Bool.not_eq_true', List.isEmpty_eq_false_iff,
        List.all_eq_true] at isLiteral
      exact ⟨text.takeWhile base.isDigit, text.dropWhile base.isDigit,
        List.takeWhile_append_dropWhile.symm, isLiteral.1, fun _ => List.mem_takeWhile_imp,
        isLiteral.2, (Option.some.inj read).symm⟩
    · cases read
  · rintro ⟨digits, suffix, rfl, nonempty, isDigit, isSuffix, rfl⟩
    have ends : suffix.takeWhile base.isDigit = [] ∧ suffix.dropWhile base.isDigit = suffix := by
      cases suffix with
      | nil => exact ⟨rfl, rfl⟩
      | cons c suffix =>
          have notDigit : base.isDigit c = false :=
            isDigit_of_isIntegerSuffix (isSuffix c List.mem_cons_self)
          simp [notDigit]
    rw [List.takeWhile_append_of_pos isDigit, List.dropWhile_append_of_pos isDigit, ends.1, ends.2,
      List.append_nil, if_pos (by simpa [nonempty] using isSuffix)]

theorem magnitude?_hexadecimal (capital : Bool) (rest : List Char) :
    magnitude? ((DigitBase.hexadecimal capital).lead ++ rest) =
      readDigits? (.hexadecimal capital) rest := by
  cases capital <;> rfl

theorem magnitude?_decimal
    (noLead : ∀ capital rest, text ≠ (DigitBase.hexadecimal capital).lead ++ rest) :
    magnitude? text = readDigits? .decimal text := by
  unfold magnitude?
  dsimp only
  split
  · exact absurd rfl (noLead false _)
  · exact absurd rfl (noLead true _)
  · rfl

theorem magnitude?_eq_some_iff :
    magnitude? text = some n ↔
      ∃ base digits suffix, text = DigitBase.lead base ++ (digits ++ suffix) ∧ digits ≠ [] ∧
        (∀ c ∈ digits, base.isDigit c = true) ∧
        (∀ c ∈ suffix, Text.isIntegerSuffix c = true) ∧
        n = Text.numberOf base.radix digits := by
  constructor
  · intro read
    by_cases hexadecimal : ∃ capital rest, text = (DigitBase.hexadecimal capital).lead ++ rest
    · rcases hexadecimal with ⟨capital, rest, rfl⟩
      rw [magnitude?_hexadecimal, readDigits?_eq_some_iff] at read
      rcases read with ⟨digits, suffix, rfl, isRead⟩
      exact ⟨.hexadecimal capital, digits, suffix, rfl, isRead⟩
    · push Not at hexadecimal
      rw [magnitude?_decimal hexadecimal, readDigits?_eq_some_iff] at read
      rcases read with ⟨digits, suffix, rfl, isRead⟩
      exact ⟨.decimal, digits, suffix, rfl, isRead⟩
  · rintro ⟨base, digits, suffix, rfl, isRead⟩
    cases base with
    | hexadecimal capital =>
        rw [magnitude?_hexadecimal, readDigits?_eq_some_iff]
        exact ⟨digits, suffix, rfl, isRead⟩
    | decimal =>
        have noLead : ∀ capital rest,
            DigitBase.lead .decimal ++ (digits ++ suffix) ≠
              (DigitBase.hexadecimal capital).lead ++ rest := by
          intro capital rest same
          have marked : ∃ c ∈ digits ++ suffix, c = 'x' ∨ c = 'X' := by
            rw [show digits ++ suffix = _ from same]
            cases capital with
            | false => exact ⟨'x', by simp [DigitBase.lead], .inl rfl⟩
            | true => exact ⟨'X', by simp [DigitBase.lead], .inr rfl⟩
          rcases marked with ⟨c, member, isMark⟩
          rcases List.mem_append.mp member with inDigits | inSuffix
          · have digit := isRead.2.1 c inDigits
            rcases isMark with rfl | rfl <;> cases digit
          · have suffixed := isRead.2.2.1 c inSuffix
            rcases isMark with rfl | rfl <;> cases suffixed
        rw [magnitude?_decimal noLead, readDigits?_eq_some_iff]
        exact ⟨digits, suffix, rfl, isRead⟩

end

theorem isBlank_of_isDigit {base : DigitBase} {c : Char} (digit : base.isDigit c = true) :
    Text.isBlank c = false := by
  refine Text.isBlank_of_apart ?_ digit
  cases base with
  | decimal => decide +kernel
  | hexadecimal capital =>
      show ∀ point ∈ Text.blankPoints, Text.isHexDigit (Char.ofNat point) = false
      decide +kernel

namespace IntegerLiteral

theorem magnitude?_body (literal : IntegerLiteral) :
    magnitude? literal.body = some literal.magnitude :=
  magnitude?_eq_some_iff.mpr ⟨literal.base, literal.digits, literal.suffix, rfl, literal.nonempty,
    literal.isDigit, literal.isSuffix, (numberOf_eq_ofDigits _ _).symm⟩

/-- A literal starts with a digit behind its sign and its blanks. -/
theorem exists_head_body (literal : IntegerLiteral) :
    ∃ c rest, literal.body = c :: rest ∧ Text.isBlank c = false ∧ c ≠ '-' := by
  rw [body]
  cases base : literal.base with
  | hexadecimal capital => cases capital <;> exact ⟨'0', _, rfl, by decide, by decide⟩
  | decimal =>
      have isDigit := literal.isDigit
      rw [base] at isDigit
      cases digits : literal.digits with
      | nil => exact absurd digits literal.nonempty
      | cons c rest =>
          have digit := isDigit c (by simp [digits])
          refine ⟨c, _, rfl, isBlank_of_isDigit digit, ?_⟩
          rintro rfl
          cases digit

theorem dropWhile_body (literal : IntegerLiteral) :
    (literal.blanks ++ literal.body).dropWhile Text.isBlank = literal.body := by
  rcases literal.exists_head_body with ⟨c, rest, split, notBlank, -⟩
  rw [List.dropWhile_append_of_pos literal.isBlank, split,
    List.dropWhile_cons_of_neg (by simp [notBlank])]

end IntegerLiteral

section

variable {text : String} {rest : List Char} {n : Int}

theorem integerLiteral?_negative (split : text.toList = '-' :: rest) :
    integerLiteral? text = some n ↔
      ∃ m, magnitude? (rest.dropWhile Text.isBlank) = some m ∧ m < 2 ^ 127 ∧ n = -(m : Int) := by
  unfold integerLiteral?
  rw [split]
  simp only [Int.ofNat_eq_natCast]
  cases magnitude? (rest.dropWhile Text.isBlank) with
  | none => simp
  | some m =>
      show (if m < 2 ^ 127 then some (-(m : Int)) else none) = some n ↔ _
      simp [eq_comm]

theorem integerLiteral?_unsigned (unsigned : ∀ rest, text.toList ≠ '-' :: rest) :
    integerLiteral? text = some n ↔
      ∃ m, magnitude? (text.toList.dropWhile Text.isBlank) = some m ∧ m < 2 ^ 127 ∧ n = m := by
  unfold integerLiteral?
  split
  · rename_i rest split
    exact absurd split (unsigned rest)
  · cases magnitude? (text.toList.dropWhile Text.isBlank) with
    | none => simp
    | some m =>
        show (if m < 2 ^ 127 then some (m : Int) else none) = some n ↔ _
        simp [eq_comm]

/-- Digits behind blanks are those of a literal, with a sign or without one. -/
theorem exists_literal {chars : List Char} {m : Nat} (negative : Bool)
    (read : magnitude? (chars.dropWhile Text.isBlank) = some m) (fits : m < 2 ^ 127) :
    ∃ literal : IntegerLiteral,
      literal.text = .ofList ((if negative then ['-'] else []) ++ chars) ∧
        literal.value = if negative then -(m : Int) else m := by
  rcases magnitude?_eq_some_iff.mp read with
    ⟨base, digits, suffix, split, nonempty, isDigit, isSuffix, rfl⟩
  rw [numberOf_eq_ofDigits] at fits ⊢
  refine ⟨{ negative, base, digits, suffix, nonempty, isDigit, isSuffix
            blanks := chars.takeWhile Text.isBlank
            isBlank := fun _ => List.mem_takeWhile_imp
            fits }, ?_, rfl⟩
  rw [IntegerLiteral.text, IntegerLiteral.body]
  dsimp only
  rw [← split, List.takeWhile_append_dropWhile]

/-- A text has the value of an integer literal exactly if it is one. -/
theorem integerLiteral?_eq_some_iff :
    integerLiteral? text = some n ↔
      ∃ literal : IntegerLiteral, literal.text = text ∧ literal.value = n := by
  constructor
  · intro read
    by_cases signed : ∃ rest, text.toList = '-' :: rest
    · rcases signed with ⟨rest, split⟩
      rcases (integerLiteral?_negative split).mp read with ⟨m, isMagnitude, fits, rfl⟩
      rcases exists_literal true isMagnitude fits with ⟨literal, isText, isValue⟩
      refine ⟨literal, ?_, isValue⟩
      apply String.toList_injective
      rw [isText, split, String.toList_ofList]
      rfl
    · push Not at signed
      rcases (integerLiteral?_unsigned signed).mp read with ⟨m, isMagnitude, fits, rfl⟩
      rcases exists_literal false isMagnitude fits with ⟨literal, isText, isValue⟩
      refine ⟨literal, ?_, isValue⟩
      rw [isText]
      exact String.ofList_toList
  · rintro ⟨literal, rfl, rfl⟩
    cases negative : literal.negative with
    | true =>
        have split : literal.text.toList = '-' :: (literal.blanks ++ literal.body) := by
          simp [IntegerLiteral.text, negative]
        refine (integerLiteral?_negative split).mpr ⟨literal.magnitude, ?_, literal.fits, ?_⟩
        · rw [literal.dropWhile_body, literal.magnitude?_body]
        · rw [IntegerLiteral.value, negative, if_pos rfl]
    | false =>
        have split : literal.text.toList = literal.blanks ++ literal.body := by
          simp [IntegerLiteral.text, negative]
        have unsigned : ∀ rest, literal.text.toList ≠ '-' :: rest := by
          intro rest signed
          rcases literal.exists_head_body with ⟨c, later, isBody, -, notSign⟩
          rw [split, isBody] at signed
          cases blanks : literal.blanks with
          | nil =>
              rw [blanks] at signed
              exact notSign (List.cons.inj signed).1
          | cons d others =>
              rw [blanks] at signed
              have blank := literal.isBlank d (by simp [blanks])
              rw [(List.cons.inj signed).1] at blank
              exact absurd blank (by decide)
        refine (integerLiteral?_unsigned unsigned).mpr ⟨literal.magnitude, ?_, literal.fits, ?_⟩
        · rw [split, literal.dropWhile_body, literal.magnitude?_body]
        · rw [IntegerLiteral.value, negative, if_neg Bool.false_ne_true]

end

/-! ## Numbering -/

/-- A constant as it is declared, with its value if it has one. -/
structure DeclaredConstant where
  name : String
  value : Option String := none

namespace DeclaredConstant

/-- The constant has an integer literal as its value. -/
def HasLiteral (constant : DeclaredConstant) (n : Int) : Prop :=
  ∃ literal : IntegerLiteral, constant.value = some literal.text ∧ literal.value = n

/-- The number that the count has reached after a constant. -/
def counted (last : Int) (constant : DeclaredConstant) : Int :=
  match constant.value with
  | some value => (integerLiteral? value).getD last
  | none => last + 1

/-- The constant as it is read behind some number. -/
def read (last : Int) (constant : DeclaredConstant) : EnumConstant where
  name := constant.name
  value := constant.value.getD (toString (last + 1))

variable {constant : DeclaredConstant} {last n : Int}

theorem counted_literal (hasLiteral : constant.HasLiteral n) : constant.counted last = n := by
  rcases hasLiteral with ⟨literal, isText, isValue⟩
  rw [counted, isText]
  dsimp only
  rw [integerLiteral?_eq_some_iff.mpr ⟨literal, rfl, isValue⟩, Option.getD_some]

theorem counted_other (other : ∀ n, ¬ constant.HasLiteral n) :
    constant.counted last = last + if constant.value.isNone then 1 else 0 := by
  rw [counted]
  cases isText : constant.value with
  | none => rfl
  | some text =>
      have noLiteral : integerLiteral? text = none := by
        rw [Option.eq_none_iff_forall_ne_some]
        intro n read
        rcases integerLiteral?_eq_some_iff.mp read with ⟨literal, rfl, isValue⟩
        exact other n ⟨literal, isText, isValue⟩
      simp [noLiteral]

end DeclaredConstant

/-- The number that the count has reached after some constants. -/
def countAfter (last : Int) (constants : List DeclaredConstant) : Int :=
  constants.foldl DeclaredConstant.counted last

/-- The count behind some constants starts from `start`, and the constants since are not literals: it
is the value of the last literal, or minus one if there is none. -/
structure CountsFrom (front : List DeclaredConstant) (start : Int)
    (since : List DeclaredConstant) : Prop where
  started : (front = since ∧ start = -1) ∨
    ∃ before constant, front = before ++ constant :: since ∧ constant.HasLiteral start
  others : ∀ constant ∈ since, ∀ n, ¬ constant.HasLiteral n

section

variable {front since : List DeclaredConstant} {start last : Int}

/-- The number of constants without a value. -/
def implicitCount (constants : List DeclaredConstant) : Nat :=
  constants.countP fun constant => constant.value.isNone

theorem countAfter_others (others : ∀ constant ∈ since, ∀ n, ¬ constant.HasLiteral n) :
    countAfter last since = last + implicitCount since := by
  induction since generalizing last with
  | nil => simp [countAfter, implicitCount]
  | cons constant since ih =>
      rcases List.forall_mem_cons.mp others with ⟨other, others⟩
      have onwards : countAfter last (constant :: since) =
          countAfter (constant.counted last) since := rfl
      rw [onwards, ih others, DeclaredConstant.counted_other other, implicitCount, implicitCount,
        List.countP_cons]
      push_cast
      ring

theorem CountsFrom.countAfter_eq (counts : CountsFrom front start since) :
    countAfter (-1) front = start + implicitCount since := by
  rcases counts.started with ⟨rfl, rfl⟩ | ⟨before, constant, rfl, hasLiteral⟩
  · exact countAfter_others counts.others
  · have onwards : countAfter (-1) (before ++ constant :: since) =
        countAfter (constant.counted (countAfter (-1) before)) since := by
      rw [countAfter, List.foldl_append]
      rfl
    rw [onwards, DeclaredConstant.counted_literal hasLiteral, countAfter_others counts.others]

theorem exists_countsFrom (front : List DeclaredConstant) :
    ∃ start since, CountsFrom front start since := by
  induction front using List.reverseRecOn with
  | nil => exact ⟨-1, [], .inl ⟨rfl, rfl⟩, by simp⟩
  | append_singleton front constant ih =>
      by_cases literal : ∃ n, constant.HasLiteral n
      · rcases literal with ⟨n, hasLiteral⟩
        exact ⟨n, [], .inr ⟨front, constant, rfl, hasLiteral⟩, by simp⟩
      · rcases ih with ⟨start, since, started, others⟩
        refine ⟨start, since ++ [constant], ?_, ?_⟩
        · rcases started with ⟨rfl, rfl⟩ | ⟨before, first, rfl, hasLiteral⟩
          · exact .inl ⟨rfl, rfl⟩
          · exact .inr ⟨before, first, by simp, hasLiteral⟩
        · rw [List.forall_mem_append, List.forall_mem_singleton]
          exact ⟨others, fun n hasLiteral => literal ⟨n, hasLiteral⟩⟩

/-- The value of a constant behind others: as it is written, or the next number of the count. -/
def HasValue (front : List DeclaredConstant) (constant : DeclaredConstant) (value : String) :
    Prop :=
  match constant.value with
  | some text => value = text
  | none => ∃ start since, CountsFrom front start since ∧
      value = toString (start + (implicitCount since + 1))

theorem hasValue_read (front : List DeclaredConstant) (constant : DeclaredConstant) :
    HasValue front constant (constant.read (countAfter (-1) front)).value := by
  rw [HasValue, DeclaredConstant.read]
  cases constant.value with
  | some text => rfl
  | none =>
      rcases exists_countsFrom front with ⟨start, since, counts⟩
      refine ⟨start, since, counts, ?_⟩
      rw [counts.countAfter_eq, add_assoc]
      rfl

end

/-- An item is read as a constant, whatever stands in front of it and behind it. -/
def IsItem (item : String) (constant : DeclaredConstant) : Prop :=
  ∀ last rest, readConstants last (item :: rest) =
    constant.read last :: readConstants (constant.counted last) rest

theorem readConstants_items {items : List String} {constants : List DeclaredConstant}
    (each : List.Forall₂ IsItem items constants) (last : Int) :
    readConstants last items =
      constants.mapIdx fun i constant => constant.read (countAfter last (constants.take i)) := by
  induction each generalizing last with
  | nil => rfl
  | cons isFirst _ ih =>
      rw [isFirst, ih, List.mapIdx_cons]
      rfl

end HeaderBindings.Header
