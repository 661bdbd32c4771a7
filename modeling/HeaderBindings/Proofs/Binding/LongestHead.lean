import HeaderBindings.Proofs.Binding.CommonHead

/-!
# The longest common start

The common start of names is measured in bytes, one name after the other, and
then cut back to an underscore.  Measured against any text, it is the meet of
the names: a text is the start of all names exactly if it is the start of their
common text.  So what is left behind the cut is the longest start of all names
that ends in an underscore.  Names in ASCII never part inside a character, and
for these there always is a common start; the main theorem says which one.
-/

namespace HeaderBindings.Managed

section

variable {first : String} {rest names : List String} {shared head : List Char}

/-- The characters of the common bytes are the longest text that all names start with. -/
theorem prefix_shared_iff
    (taken : takeBytes? (commonBytes first rest) first.toList = some shared) :
    head <+: shared ↔ ∀ name ∈ first :: rest, head <+: name.toList := by
  rcases takeBytes?_some taken with ⟨isPrefix, size⟩
  have common : ∀ name ∈ first :: rest, bytesOf shared <+: bytesOf name.toList :=
    (le_commonBytes_iff (bytesOf_prefix_iff.mpr isPrefix)).mp size.le
  constructor
  · intro within name member
    exact within.trans (bytesOf_prefix_iff.mp (common name member))
  · intro starts
    have ofFirst := starts first List.mem_cons_self
    have fits : (bytesOf head).length ≤ (bytesOf shared).length := by
      rw [size, le_commonBytes_iff (bytesOf_prefix_iff.mpr ofFirst)]
      exact fun name member => bytesOf_prefix_iff.mpr (starts name member)
    exact bytesOf_prefix_iff.mp (List.prefix_of_prefix_length_le
      (bytesOf_prefix_iff.mpr ofFirst) (bytesOf_prefix_iff.mpr isPrefix) fits)

/-- Cutting back to an underscore leaves the longest start that ends in one. -/
theorem prefix_cut_of_underscore (starts : head <+: shared) (ends : head.getLast? = some '_') :
    head <+: Text.dropEndWhile (· != '_') shared := by
  rcases starts with ⟨back, rfl⟩
  have last (nonempty : head ≠ []) : (head.getLast nonempty != '_') = false := by
    rw [List.getLast?_eq_some_getLast nonempty, Option.some.injEq] at ends
    simp [ends]
  rw [Text.dropEndWhile_eq_rdropWhile, Text.rdropWhile_append_of_last back last]
  exact List.prefix_append head _

/-- In front of the cut stands an underscore, if anything is left. -/
theorem getLast?_cut (nonempty : Text.dropEndWhile (· != '_') shared ≠ []) :
    (Text.dropEndWhile (· != '_') shared).getLast? = some '_' := by
  rw [Text.dropEndWhile_eq_rdropWhile] at nonempty ⊢
  have last := List.rdropWhile_last_not (· != '_') shared nonempty
  rw [List.getLast?_eq_some_getLast nonempty]
  simpa using last

/-- A text that all names start with and that ends in an underscore. -/
structure SharedHead (names : List String) (head : List Char) : Prop where
  starts : ∀ name ∈ names, head <+: name.toList
  ends : head.getLast? = some '_'

/-- The longest of them. -/
structure LongestHead (names : List String) (head : List Char) : Prop extends
    SharedHead names head where
  longest : ∀ other, SharedHead names other → other.length ≤ head.length

/-- What the names have behind a text they start with can stand alone: it is not empty and does not
start with a digit. -/
def Removable (names : List String) (head : List Char) : Prop :=
  ∀ name ∈ names, ∃ c rest, name.toList = head ++ c :: rest ∧ c.isDigit = false

theorem all_canStartAt_iff (starts : ∀ name ∈ names, head <+: name.toList) :
    names.all (canStartAt head.length) = true ↔ Removable names head := by
  rw [List.all_eq_true]
  refine forall₂_congr fun name member => ?_
  rcases starts name member with ⟨rest, isName⟩
  rw [canStartAt, ← isName, List.drop_left]
  cases rest with
  | nil => simp
  | cons c rest => simp

/-- The common start that is due to some names: the longest one that ends in an underscore, or none
where that cannot be removed or is not there. -/
inductive IsCommonHead (names : List String) : String → Prop where
  | removed {head : List Char} (isLongest : LongestHead names head)
      (removable : Removable names head) : IsCommonHead names (.ofList head)
  | kept {head : List Char} (isLongest : LongestHead names head)
      (fixed : ¬ Removable names head) : IsCommonHead names ""
  | absent (none : ∀ head, ¬ SharedHead names head) : IsCommonHead names ""

theorem IsCommonHead.isPrefix {common : String} (isCommon : IsCommonHead names common) :
    ∀ name ∈ names, common.toList <+: name.toList := by
  cases isCommon with
  | removed isLongest removable =>
      rw [String.toList_ofList]
      exact isLongest.starts
  | kept => exact fun _ _ => List.nil_prefix
  | absent => exact fun _ _ => List.nil_prefix

/-- What is in front of the cut is the longest start that ends in an underscore. -/
theorem longestHead_cut (starts : ∀ head, head <+: shared ↔ ∀ name ∈ names, head <+: name.toList)
    (nonempty : Text.dropEndWhile (· != '_') shared ≠ []) :
    LongestHead names (Text.dropEndWhile (· != '_') shared) where
  starts := (starts _).mp (List.rdropWhile_prefix _ _)
  ends := getLast?_cut nonempty
  longest other isShared :=
    (prefix_cut_of_underscore ((starts other).mpr isShared.starts) isShared.ends).length_le

/-- If nothing is left of the common text, no start of all names ends in an underscore. -/
theorem not_sharedHead (starts : ∀ head, head <+: shared ↔ ∀ name ∈ names, head <+: name.toList)
    (nothing : Text.dropEndWhile (· != '_') shared = []) (head : List Char) :
    ¬ SharedHead names head := by
  intro isShared
  have within := prefix_cut_of_underscore ((starts head).mpr isShared.starts) isShared.ends
  have ends := isShared.ends
  rw [nothing, List.prefix_nil] at within
  rw [within] at ends
  cases ends

theorem isCommonHead_cut (starts : ∀ head, head <+: shared ↔ ∀ name ∈ names, head <+: name.toList) :
    IsCommonHead names
      (if names.all (canStartAt (Text.dropEndWhile (· != '_') shared).length)
        then .ofList (Text.dropEndWhile (· != '_') shared) else "") := by
  by_cases nothing : Text.dropEndWhile (· != '_') shared = []
  · have absent := not_sharedHead starts nothing
    rw [nothing]
    split
    · exact .absent absent
    · exact .absent absent
  · have isLongest := longestHead_cut starts nothing
    have removable := all_canStartAt_iff isLongest.starts
    split
    · rename_i allowed
      exact .removed isLongest (removable.mp allowed)
    · rename_i refused
      exact .kept isLongest (mt removable.mpr refused)

theorem commonHead?_pair (first second : String) (rest : List String) :
    commonHead? (first :: second :: rest) =
      (takeBytes? (commonBytes first (second :: rest)) first.toList).map fun common =>
        if (first :: second :: rest).all
            (canStartAt (Text.dropEndWhile (· != '_') common).length)
          then .ofList (Text.dropEndWhile (· != '_') common) else "" :=
  rfl

/-- Two names or more have the common start that is due to them, if they have any. -/
theorem isCommonHead_of_some {common : String} (two : 2 ≤ names.length)
    (found : commonHead? names = some common) : IsCommonHead names common := by
  cases names with
  | nil => simp at two
  | cons first others =>
      cases others with
      | nil => simp at two
      | cons second rest =>
          rw [commonHead?_pair] at found
          rcases Option.map_eq_some_iff.mp found with ⟨shared, taken, rfl⟩
          exact isCommonHead_cut fun head => prefix_shared_iff taken

theorem utf8EncodeChar_of_ascii {c : Char} (ascii : c.toNat < 128) :
    String.utf8EncodeChar c = [c.val.toUInt8] := by
  have small : c.val ≤ 127 := UInt32.le_iff_toNat_le.mpr (Nat.le_of_lt_succ ascii)
  exact String.utf8EncodeChar_eq_singleton (Char.utf8Size_eq_one_iff.mpr small)

/-- The first byte tells the ASCII characters apart. -/
theorem eq_of_firstByte {c d : Char} (ascii : c.toNat < 128) (alsoAscii : d.toNat < 128)
    (same : (String.utf8EncodeChar c).head? = (String.utf8EncodeChar d).head?) : c = d := by
  rw [utf8EncodeChar_of_ascii ascii, utf8EncodeChar_of_ascii alsoAscii, List.head?_cons,
    List.head?_cons, Option.some.injEq] at same
  have codes := congrArg UInt8.toNat same
  rw [UInt32.toNat_toUInt8, UInt32.toNat_toUInt8, Char.toNat_val, Char.toNat_val,
    Nat.mod_eq_of_lt (by omega), Nat.mod_eq_of_lt (by omega)] at codes
  exact Char.toNat_inj.mp codes

theorem not_partInsideCharacter_of_ascii (nonempty : names ≠ [])
    (ascii : ∀ name ∈ names, ∀ c ∈ name.toList, c.toNat < 128) :
    ¬ PartInsideCharacter names := by
  rintro ⟨head, byte, goesOn, parted⟩
  rcases List.exists_mem_of_ne_nil names nonempty with ⟨first, inNames⟩
  rcases goesOn first inNames with ⟨c, rest, isFirst, isByte⟩
  rcases parted c with ⟨name, member, apart⟩
  rcases goesOn name member with ⟨d, more, isName, alsoByte⟩
  have same : c = d := by
    apply eq_of_firstByte
    · exact ascii first inNames c (by simp [isFirst])
    · exact ascii name member d (by simp [isName])
    · rw [isByte, alsoByte]
  exact apart ⟨more, by simp [isName, same]⟩

/--
Two ASCII names or more always have a common start, and it is the longest text
that ends in an underscore and that all of them start with, if what they have
behind it is not empty and starts with no digit, and else the empty text.
-/
theorem commonHead?_longest (two : 2 ≤ names.length)
    (ascii : ∀ name ∈ names, ∀ c ∈ name.toList, c.toNat < 128) :
    ∃ common, commonHead? names = some common ∧ IsCommonHead names common ∧
      ∀ name ∈ names, common.toList <+: name.toList := by
  have nonempty : names ≠ [] := by
    rintro rfl
    simp at two
  have found : commonHead? names ≠ none :=
    mt commonHead?_eq_none_iff.mp (not_partInsideCharacter_of_ascii nonempty ascii)
  rcases Option.ne_none_iff_exists'.mp found with ⟨common, isCommon⟩
  have due := isCommonHead_of_some two isCommon
  exact ⟨common, isCommon, due, due.isPrefix⟩

/-- Two of three names start with `MODE_ON_`, but all of them only with `MODE_`. -/
theorem commonHead?_longest_mode :
    (2 ≤ ["MODE_ON_IDLE", "MODE_ON_FALL", "MODE_OFF"].length ∧
      ∀ name ∈ ["MODE_ON_IDLE", "MODE_ON_FALL", "MODE_OFF"], ∀ c ∈ name.toList, c.toNat < 128) ∧
    ∃ common, commonHead? ["MODE_ON_IDLE", "MODE_ON_FALL", "MODE_OFF"] = some common ∧
      IsCommonHead ["MODE_ON_IDLE", "MODE_ON_FALL", "MODE_OFF"] common ∧
      ∀ name ∈ ["MODE_ON_IDLE", "MODE_ON_FALL", "MODE_OFF"], common.toList <+: name.toList := by
  have ascii : ["MODE_ON_IDLE", "MODE_ON_FALL", "MODE_OFF"].all
      (fun name => name.toList.all fun c => c.toNat < 128) = true := by
    decide +kernel
  simp only [List.all_eq_true, decide_eq_true_eq] at ascii
  exact ⟨⟨by decide, ascii⟩, commonHead?_longest (by decide) ascii⟩

example : commonHead? ["MODE_ON_IDLE", "MODE_ON_FALL", "MODE_OFF"] = some "MODE_" := by
  decide +kernel

/-- A name may not start with a digit, so nothing is removed. -/
example : commonHead? ["KEY_1", "KEY_A"] = some "" := by
  decide +kernel

end

end HeaderBindings.Managed
