import HeaderBindings.Binding.Managed.EnumNames
import HeaderBindings.Proofs.Text.Slice
import Mathlib.Data.List.Infix

/-!
# The common start of names

The common start of some names is measured in bytes and then read as a text.
The bytes of a character are never the start of those of another one, so common
bytes stand for common characters, except for the bytes of one last character
on which the names do not agree.  Only where all names share some bytes of such
a character is there no text of the common bytes.
-/

namespace HeaderBindings.Managed

/-! ## Bytes of characters -/

section Bytes

variable {c d : Char} {head text : List Char} {bytes : List UInt8}

theorem utf8EncodeChar_append_inj {left right : List UInt8}
    (same : String.utf8EncodeChar c ++ left = String.utf8EncodeChar d ++ right) :
    c = d ∧ left = right := by
  have decoded (e : Char) (rest : List UInt8) :
      (String.utf8EncodeChar e ++ rest).toByteArray.utf8DecodeChar? 0 = some e := by
    rw [List.toByteArray_append]
    exact ByteArray.utf8DecodeChar?_utf8EncodeChar_append
  have sameChar : some c = some d := by
    rw [← decoded c left, same, decoded]
  cases sameChar
  exact ⟨rfl, List.append_cancel_left same⟩

theorem bytesOf_cons (c : Char) (text : List Char) :
    bytesOf (c :: text) = String.utf8EncodeChar c ++ bytesOf text :=
  List.flatMap_cons

theorem bytesOf_append (first second : List Char) :
    bytesOf (first ++ second) = bytesOf first ++ bytesOf second :=
  List.flatMap_append

theorem length_bytesOf_cons (c : Char) (text : List Char) :
    (bytesOf (c :: text)).length = c.utf8Size + (bytesOf text).length := by
  rw [bytesOf_cons, List.length_append, String.length_utf8EncodeChar]

theorem exists_cons_utf8EncodeChar (c : Char) :
    ∃ byte more, String.utf8EncodeChar c = byte :: more :=
  List.exists_cons_of_ne_nil String.utf8EncodeChar_ne_nil

/-- After the bytes of a text come those of what it is continued with. -/
theorem exists_of_bytesOf_append (same : bytesOf head ++ bytes = bytesOf text) :
    ∃ rest, text = head ++ rest ∧ bytes = bytesOf rest := by
  induction head generalizing text with
  | nil => exact ⟨text, rfl, same⟩
  | cons c head ih =>
      rw [bytesOf_cons, List.append_assoc] at same
      cases text with
      | nil =>
          have empty := (List.append_eq_nil_iff.mp same).1
          exact absurd empty String.utf8EncodeChar_ne_nil
      | cons d text =>
          rw [bytesOf_cons] at same
          rcases utf8EncodeChar_append_inj same with ⟨rfl, sameRest⟩
          rcases ih sameRest with ⟨rest, rfl, isRest⟩
          exact ⟨rest, rfl, isRest⟩

theorem bytesOf_prefix_iff : bytesOf head <+: bytesOf text ↔ head <+: text := by
  constructor
  · rintro ⟨bytes, same⟩
    rcases exists_of_bytesOf_append same with ⟨rest, rfl, _⟩
    exact List.prefix_append head rest
  · rintro ⟨rest, rfl⟩
    rw [bytesOf_append]
    exact List.prefix_append _ _

/-- One byte more is the first byte of the next character. -/
theorem bytesOf_concat_prefix_iff {byte : UInt8} :
    bytesOf head ++ [byte] <+: bytesOf text ↔
      ∃ c rest, text = head ++ c :: rest ∧ (String.utf8EncodeChar c).head? = some byte := by
  constructor
  · rintro ⟨bytes, same⟩
    rw [List.append_assoc] at same
    rcases exists_of_bytesOf_append same with ⟨rest, rfl, isRest⟩
    cases rest with
    | nil => cases isRest
    | cons c rest =>
        rcases exists_cons_utf8EncodeChar c with ⟨first, more, encoded⟩
        rw [bytesOf_cons, encoded] at isRest
        cases isRest
        exact ⟨c, rest, rfl, by rw [encoded, List.head?_cons]⟩
  · rintro ⟨c, rest, rfl, first⟩
    rcases List.head?_eq_some_iff.mp first with ⟨more, encoded⟩
    rw [bytesOf_append, bytesOf_cons, encoded]
    exact ⟨more ++ bytesOf rest, by simp⟩

end Bytes

/-! ## Common bytes -/

section Common

variable {first : String} {rest : List String} {bytes : List UInt8}

/-- Two texts share as many bytes as each common start has. -/
theorem le_sharedBytes_iff {left right : List UInt8} (isPrefix : bytes <+: left) :
    bytes.length ≤ sharedBytes left right ↔ bytes <+: right := by
  induction bytes generalizing left right with
  | nil => simp
  | cons byte bytes ih =>
      rcases isPrefix with ⟨more, rfl⟩
      cases right with
      | nil => simp [sharedBytes]
      | cons other right =>
          rw [List.cons_append, sharedBytes, List.length_cons, List.cons_prefix_cons]
          split
          · rename_i same
            rw [Nat.add_le_add_iff_right, ih (List.prefix_append bytes more)]
            exact (and_iff_right same).symm
          · rename_i different
            exact iff_of_false (Nat.not_succ_le_zero _) fun both => different both.1

theorem le_foldl_min_iff {α : Type} {size : α → Nat} {items : List α} {n start : Nat} :
    n ≤ items.foldl (fun least item => min least (size item)) start ↔
      n ≤ start ∧ ∀ item ∈ items, n ≤ size item := by
  induction items generalizing start with
  | nil => simp
  | cons item items ih => rw [List.foldl_cons, ih, Nat.le_min, List.forall_mem_cons, and_assoc]

theorem commonBytes_le : commonBytes first rest ≤ (bytesOf first.toList).length :=
  (le_foldl_min_iff.mp le_rfl).1

/-- All names share as many bytes as each common start of them has. -/
theorem le_commonBytes_iff (isPrefix : bytes <+: bytesOf first.toList) :
    bytes.length ≤ commonBytes first rest ↔
      ∀ name ∈ first :: rest, bytes <+: bytesOf name.toList := by
  rw [commonBytes, le_foldl_min_iff, List.forall_mem_cons]
  refine and_congr (iff_of_true isPrefix.length_le isPrefix) ?_
  exact forall₂_congr fun name _ => le_sharedBytes_iff isPrefix

/-! ## Characters of the common bytes -/

theorem takeBytes?_some {size : Nat} {text head : List Char}
    (taken : takeBytes? size text = some head) :
    head <+: text ∧ (bytesOf head).length = size := by
  fun_induction takeBytes? size text generalizing head with
  | case1 text =>
      cases taken
      exact ⟨List.nil_prefix, rfl⟩
  | case2 => cases taken
  | case3 size c text fits ih =>
      rcases Option.map_eq_some_iff.mp taken with ⟨tail, tailTaken, rfl⟩
      rcases ih tailTaken with ⟨isPrefix, length⟩
      refine ⟨List.cons_prefix_cons.mpr ⟨rfl, isPrefix⟩, ?_⟩
      rw [length_bytesOf_cons, length]
      exact Nat.add_sub_cancel' fits
  | case4 => cases taken

/-- Bytes of a text are no text if they end inside a character. -/
theorem takeBytes?_eq_none_iff {size : Nat} {text : List Char}
    (fits : size ≤ (bytesOf text).length) :
    takeBytes? size text = none ↔
      ∃ head c rest, text = head ++ c :: rest ∧ (bytesOf head).length < size ∧
        size < (bytesOf (head ++ [c])).length := by
  fun_induction takeBytes? size text with
  | case1 text => simp
  | case2 size => exact absurd fits (Nat.not_succ_le_zero size)
  | case3 size c text whole ih =>
      rw [length_bytesOf_cons] at fits
      rw [Option.map_eq_none_iff, ih (by omega)]
      constructor
      · rintro ⟨head, d, rest, rfl, more, less⟩
        refine ⟨c :: head, d, rest, rfl, ?_⟩
        rw [List.cons_append, length_bytesOf_cons, length_bytesOf_cons]
        omega
      · rintro ⟨head, d, rest, split, more, less⟩
        cases head with
        | nil =>
            cases split
            rw [List.nil_append, length_bytesOf_cons] at less
            exact absurd whole (Nat.not_le.mpr less)
        | cons e head =>
            cases split
            refine ⟨head, d, rest, rfl, ?_⟩
            rw [length_bytesOf_cons] at more
            rw [List.cons_append, length_bytesOf_cons] at less
            omega
  | case4 size c text parted =>
      refine iff_of_true rfl ⟨[], c, text, rfl, Nat.succ_pos size, ?_⟩
      rw [List.nil_append, length_bytesOf_cons]
      exact Nat.lt_add_right _ (Nat.lt_of_not_le parted)

/-- Names that go on after a common start with characters of one first byte, but not with one
character. -/
def PartInsideCharacter (names : List String) : Prop :=
  ∃ head byte,
    (∀ name ∈ names, ∃ c rest,
      name.toList = head ++ c :: rest ∧ (String.utf8EncodeChar c).head? = some byte) ∧
    ∀ c, ∃ name ∈ names, ¬ head ++ [c] <+: name.toList

theorem takeBytes?_commonBytes_eq_none_iff :
    takeBytes? (commonBytes first rest) first.toList = none ↔
      PartInsideCharacter (first :: rest) := by
  rw [takeBytes?_eq_none_iff commonBytes_le]
  constructor
  · rintro ⟨head, c, tail, isFirst, more, less⟩
    rcases exists_cons_utf8EncodeChar c with ⟨byte, others, encoded⟩
    have isNext : (String.utf8EncodeChar c).head? = some byte := by rw [encoded, List.head?_cons]
    refine ⟨head, byte, ?_, ?_⟩
    · have isPrefix : bytesOf head ++ [byte] <+: bytesOf first.toList :=
        bytesOf_concat_prefix_iff.mpr ⟨c, tail, isFirst, isNext⟩
      have common : ∀ name ∈ first :: rest, bytesOf head ++ [byte] <+: bytesOf name.toList := by
        refine (le_commonBytes_iff isPrefix).mp ?_
        rw [List.length_append]
        exact more
      exact fun name member => bytesOf_concat_prefix_iff.mp (common name member)
    · intro d
      by_contra! shared
      -- the character is the one of the first name, and all names share all of its bytes
      have isPrefix := shared first List.mem_cons_self
      have same : head ++ [d] = head ++ [c] := by
        rw [isFirst] at isPrefix
        simpa using isPrefix
      refine absurd ((le_commonBytes_iff (bytesOf_prefix_iff.mpr isPrefix)).mpr fun name member =>
        bytesOf_prefix_iff.mpr (shared name member)) ?_
      rw [same]
      exact Nat.not_le.mpr less
  · rintro ⟨head, byte, goesOn, parted⟩
    rcases goesOn first List.mem_cons_self with ⟨c, tail, isFirst, isNext⟩
    refine ⟨head, c, tail, isFirst, ?_, ?_⟩
    · have isPrefix : bytesOf head ++ [byte] <+: bytesOf first.toList :=
        bytesOf_concat_prefix_iff.mpr ⟨c, tail, isFirst, isNext⟩
      have common : (bytesOf head ++ [byte]).length ≤ commonBytes first rest :=
        (le_commonBytes_iff isPrefix).mpr fun name member =>
          bytesOf_concat_prefix_iff.mpr (goesOn name member)
      rwa [List.length_append] at common
    · by_contra! enough
      have isPrefix : head ++ [c] <+: first.toList := by
        rw [isFirst]
        exact ⟨tail, by simp⟩
      have common := (le_commonBytes_iff (bytesOf_prefix_iff.mpr isPrefix)).mp enough
      rcases parted c with ⟨name, member, notPrefix⟩
      exact notPrefix (bytesOf_prefix_iff.mp (common name member))

theorem not_partInsideCharacter_nil : ¬ PartInsideCharacter [] := by
  rintro ⟨_, _, _, parted⟩
  rcases parted default with ⟨_, ⟨⟩, _⟩

theorem not_partInsideCharacter_singleton (name : String) : ¬ PartInsideCharacter [name] := by
  rintro ⟨head, byte, goesOn, parted⟩
  rcases goesOn name List.mem_cons_self with ⟨c, rest, isName, _⟩
  rcases parted c with ⟨other, member, notPrefix⟩
  rw [List.mem_singleton.mp member, isName] at notPrefix
  exact notPrefix ⟨rest, by simp⟩

/-- There is no common start exactly where the names part inside a character. -/
theorem commonHead?_eq_none_iff {names : List String} :
    commonHead? names = none ↔ PartInsideCharacter names := by
  match names with
  | [] => exact iff_of_false (by simp [commonHead?]) not_partInsideCharacter_nil
  | [name] => exact iff_of_false (by simp [commonHead?]) (not_partInsideCharacter_singleton name)
  | first :: second :: rest =>
      rw [commonHead?, Option.map_eq_none_iff, takeBytes?_commonBytes_eq_none_iff]
      exact fun none => nomatch none

/-- All names start with the common start. -/
theorem commonHead?_prefix {names : List String} {head : String}
    (common : commonHead? names = some head) {name : String} (member : name ∈ names) :
    head.toList <+: name.toList := by
  match names with
  | [] => cases member
  | [_] =>
      cases common
      exact List.nil_prefix
  | first :: second :: rest =>
      rw [commonHead?] at common
      · rcases Option.map_eq_some_iff.mp common with ⟨shared, taken, isHead⟩
        rcases takeBytes?_some taken with ⟨isPrefix, length⟩
        have bytes := (le_commonBytes_iff (bytesOf_prefix_iff.mpr isPrefix)).mp length.le
        have whole : shared <+: name.toList := bytesOf_prefix_iff.mp (bytes name member)
        dsimp only at isHead
        split at isHead
        · rw [← isHead, String.toList_ofList]
          refine List.IsPrefix.trans ?_ whole
          rw [Text.dropEndWhile_eq_rdropWhile]
          exact List.rdropWhile_prefix _ _
        · rw [← isHead]
          exact List.nil_prefix
      · exact fun none => nomatch none

/-- A common start is cut off only where a name can start behind it. -/
theorem commonHead?_canStart {names : List String} {head : String}
    (common : commonHead? names = some head) :
    head = "" ∨ ∀ name ∈ names, canStartAt head.toList.length name = true := by
  match names with
  | [] =>
      cases common
      exact Or.inl rfl
  | [_] =>
      cases common
      exact Or.inl rfl
  | first :: second :: rest =>
      rw [commonHead?] at common
      · rcases Option.map_eq_some_iff.mp common with ⟨shared, _, isHead⟩
        dsimp only at isHead
        split at isHead
        · rename_i canStart
          refine Or.inr ?_
          rw [← isHead, String.toList_ofList]
          exact List.all_eq_true.mp canStart
        · exact Or.inl isHead.symm
      · exact fun none => nomatch none

end Common

end HeaderBindings.Managed
