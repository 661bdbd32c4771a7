import HeaderBindings.Proofs.Json.RoundTrip
import Mathlib.Data.List.Sort

/-!
# The reference form of the hashed text

The fingerprint is documented to be taken of the common dump of a value: the
keys sorted, a comma or a colon with a blank after it, and in every string the
quote, the backslash and all that is not printable ASCII escaped, with a short
escape where there is one and by UTF-16 units elsewhere.  That form is written
down here on its own.  The one-line layout is that form with one difference: it
takes the delete character, the last one of ASCII, to be printable.
-/

namespace HeaderBindings.Json

/-! ## The reference -/

namespace Dump

/-- The UTF-16 units of a code point. -/
def units (point : Nat) : List Nat :=
  if point < 0x10000 then [point]
  else [0xD800 ||| ((point - 0x10000) >>> 10), 0xDC00 ||| ((point - 0x10000) &&& 0x3FF)]

/-- The number of a unit in four digits, in base sixteen. -/
def number (unit : Nat) : List Char :=
  (Nat.toDigits 16 unit).leftpad 4 '0'

/-- The printable characters of ASCII, from the blank to the tilde. -/
def isPrintable (c : Char) : Bool :=
  0x20 ≤ c.toNat && c.toNat ≤ 0x7E

/-- A character inside a string, where the characters that are plain stand for themselves. -/
def character (isPlain : Char → Bool) (c : Char) : List Char :=
  match shortEscapes.lookup c with
  | some letter => ['\\', letter]
  | none =>
    if isPlain c then [c]
    else (units c.toNat).flatMap fun unit => '\\' :: 'u' :: number unit

/-- A string in quotes. -/
def string (isPlain : Char → Bool) (text : String) : List Char :=
  '"' :: (text.toList.flatMap (character isPlain) ++ ['"'])

/-- Pieces with a comma and a blank between neighbours. -/
def listed (pieces : List (List Char)) : List Char :=
  [',', ' '].intercalate pieces

/-- Fields, each a name and a written value, in the order of the names. -/
def sortedFields (isPlain : Char → Bool) (fields : List (String × List Char)) : List Char :=
  listed ((fields.insertionSort fun first second => first.1 ≤ second.1).map fun field =>
    string isPlain field.1 ++ [':', ' '] ++ field.2)

end Dump

mutual

/-- The reference form of a value. -/
def dump (isPlain : Char → Bool) : Value → List Char
  | .null => "null".toList
  | .bool value => toString value |>.toList
  | .number digits => digits.toList
  | .string text => Dump.string isPlain text
  | .array items => '[' :: (Dump.listed (dumpItems isPlain items) ++ [']'])
  | .object fields =>
    '\x7b' :: (Dump.sortedFields isPlain (dumpFields isPlain fields) ++ ['\x7d'])

/-- The reference forms of some items. -/
def dumpItems (isPlain : Char → Bool) : List Value → List (List Char)
  | [] => []
  | item :: rest => dump isPlain item :: dumpItems isPlain rest

/-- The names of some fields with the reference forms of their values. -/
def dumpFields (isPlain : Char → Bool) : List (String × Value) → List (String × List Char)
  | [] => []
  | (name, value) :: rest => (name, dump isPlain value) :: dumpFields isPlain rest

end

namespace Dump

theorem number_eq {unit : Nat} (small : unit < 0x10000) : number unit = hexUnit unit := by
  have digit {n : Nat} (isDigit : n < 16) : n.digitChar = hexDigit n := by
    have all : ∀ digit : Fin 16, Nat.digitChar digit = hexDigit digit := by decide
    exact all ⟨n, isDigit⟩
  have last {n : Nat} (isDigit : n < 16) : Nat.toDigits 16 n = [hexDigit n] := by
    rw [Nat.toDigits_of_lt_base isDigit, digit isDigit]
  have more {n : Nat} (large : 16 ≤ n) :
      Nat.toDigits 16 n = Nat.toDigits 16 (n / 16) ++ [hexDigit (n % 16)] := by
    rw [Nat.toDigits_of_base_le (by decide) large, digit (Nat.mod_lt _ (by decide))]
  -- The numbers of one to four digits; the places above the first digit hold zeros.
  by_cases one : unit < 16
  · have high : unit / 0x1000 = 0 ∧ unit / 0x100 = 0 ∧ unit / 16 = 0 := by omega
    rw [number, hexUnit, last one, high.1, high.2.1, high.2.2, Nat.mod_eq_of_lt one]
    rfl
  by_cases two : unit < 0x100
  · have high : unit / 0x1000 = 0 ∧ unit / 0x100 = 0 ∧ unit / 16 < 16 := by omega
    rw [number, hexUnit, more (by omega), last high.2.2, high.1, high.2.1,
      Nat.mod_eq_of_lt high.2.2]
    rfl
  by_cases three : unit < 0x1000
  · have high : unit / 0x1000 = 0 ∧ unit / 0x100 < 16 ∧ unit / 16 / 16 = unit / 0x100 := by omega
    rw [number, hexUnit, more (by omega), more (by omega), high.2.2, last high.2.1, high.1,
      Nat.mod_eq_of_lt high.2.1]
    rfl
  · have high : unit / 0x1000 < 16 ∧ unit / 16 / 16 = unit / 0x100 ∧
        unit / 0x100 / 16 = unit / 0x1000 := by omega
    rw [number, hexUnit, more (by omega), more (by omega), high.2.1, more (by omega), high.2.2,
      last high.1, Nat.mod_eq_of_lt high.1]
    rfl

theorem units_eq {point : Nat} (valid : point < 0x110000) : units point = utf16Units point := by
  have top : (point - 0x10000) / 0x400 < 2 ^ 10 := by omega
  have bottom : (point - 0x10000) % 0x400 < 2 ^ 10 := by omega
  have high : 0xD800 ||| ((point - 0x10000) >>> 10) = 0xD800 + (point - 0x10000) / 0x400 := by
    rw [Nat.shiftRight_eq_div_pow]
    exact (Nat.shiftLeft_add_eq_or_of_lt top 54).symm
  have low : 0xDC00 ||| ((point - 0x10000) &&& 0x3FF) = 0xDC00 + (point - 0x10000) % 0x400 := by
    have rest : (point - 0x10000) &&& 0x3FF = (point - 0x10000) % 0x400 :=
      Nat.and_two_pow_sub_one_eq_mod _ 10
    rw [rest]
    exact (Nat.shiftLeft_add_eq_or_of_lt bottom 55).symm
  rw [units, utf16Units, high, low]

end Dump

/-! ## The one-line layout -/

/-- The characters that the one-line layout writes as they stand. -/
def isPlain (c : Char) : Bool :=
  Dump.isPrintable c || c == '\x7F'

theorem toNat_lt (c : Char) : c.toNat < 0x110000 := by
  have valid : c.toNat < 0xD800 ∨ 0xDFFF < c.toNat ∧ c.toNat < 0x110000 := c.valid
  omega

theorem unit_lt {c : Char} {unit : Nat} (member : unit ∈ utf16Units c.toNat) :
    unit < 0x10000 := by
  have valid := toNat_lt c
  rw [utf16Units] at member
  split at member
  · rename_i single
    rw [List.mem_singleton.mp member]
    exact single
  · simp only [List.mem_cons, List.not_mem_nil, or_false] at member
    rcases member with high | low <;> omega

theorem character_escaped {plain : Char → Bool} {c : Char}
    (noShort : shortEscapes.lookup c = none) (escaped : plain c = false) :
    Dump.character plain c = (utf16Units c.toNat).flatMap unitEscape := by
  rw [Dump.character, noShort]
  simp only [escaped, Bool.false_eq_true, if_false, Dump.units_eq (toNat_lt c)]
  apply List.flatMap_congr
  intro unit member
  rw [unitEscape, Dump.number_eq (unit_lt member)]

theorem isPlain_iff {c : Char} : isPlain c = true ↔ 0x20 ≤ c.toNat ∧ c.toNat ≤ 0x7F := by
  have delete : c = '\x7F' ↔ c.toNat = 0x7F := by
    rw [← Char.toNat_inj]
    rfl
  simp only [isPlain, Dump.isPrintable, Bool.or_eq_true, Bool.and_eq_true, decide_eq_true_eq,
    beq_iff_eq, delete]
  omega

theorem writeChar_eq_character (c : Char) : writeChar .ascii c = Dump.character isPlain c := by
  rw [writeChar_eq]
  cases noShort : shortEscapes.lookup c with
  | some letter => rw [Dump.character, noShort]
  | none =>
      cases plain : isPlain c with
      | true =>
          have range := isPlain_iff.mp plain
          rw [Dump.character, noShort]
          simp only [plain, if_true]
          rw [if_neg (by omega), if_pos (by omega)]
      | false =>
          have range := mt isPlain_iff.mpr (Bool.not_eq_true _ ▸ plain)
          rw [character_escaped noShort plain]
          dsimp only
          split
          · rw [utf16Units, if_pos (by omega), List.flatMap_singleton]
          · rw [if_neg (by omega)]

theorem writeString_eq (text : String) : writeString .ascii text = Dump.string isPlain text := by
  rw [writeString, Dump.string, List.cons_append, funext writeChar_eq_character]

theorem dumpItems_eq (plain : Char → Bool) (items : List Value) :
    dumpItems plain items = items.map (dump plain) := by
  induction items with
  | nil => rfl
  | cons item rest ih => rw [dumpItems, ih, List.map_cons]

theorem dumpFields_eq (plain : Char → Bool) (fields : List (String × Value)) :
    dumpFields plain fields = fields.map fun field => (field.1, dump plain field.2) := by
  induction fields with
  | nil => rfl
  | cons field rest ih => rw [dumpFields, ih, List.map_cons]

theorem writeLineItems_eq (items : List Value) :
    writeLineItems items = Dump.listed (items.map writeLine) := by
  induction items with
  | nil => rfl
  | cons item others ih =>
      cases others with
      | nil => simp [writeLineItems, Dump.listed]
      | cons next rest =>
          rw [writeLineItems, ih]
          simp [Dump.listed, List.intercalate_cons_cons]

theorem writeLineFields_eq (fields : List (String × Value)) :
    writeLineFields fields = Dump.listed (fields.map fun field =>
      writeString .ascii field.1 ++ [':', ' '] ++ writeLine field.2) := by
  induction fields with
  | nil => rfl
  | cons field others ih =>
      cases others with
      | nil => simp [writeLineFields, Dump.listed]
      | cons next rest =>
          rw [writeLineFields, ih]
          simp [Dump.listed, List.intercalate_cons_cons]

/-- Fields in order stay where they are. -/
theorem dump_object {plain : Char → Bool} {fields : List (String × Value)}
    (ascending : Table.Ascending fields) :
    dump plain (.object fields) =
      '\x7b' :: (Dump.listed (fields.map fun field =>
        Dump.string plain field.1 ++ [':', ' '] ++ dump plain field.2) ++ ['\x7d']) := by
  have sorted : ((fields.map fun field => (field.1, dump plain field.2)).Pairwise
      fun first second => first.1 ≤ second.1) := by
    rw [List.pairwise_map]
    exact ascending.imp fun less => String.not_lt.mp (String.lt_asymm less)
  rw [dump, Dump.sortedFields, dumpFields_eq, sorted.insertionSort_eq, List.map_map]
  rfl

/-- The one-line layout is the reference form, but for the delete character. -/
theorem writeLine_eq_dump {value : Value} (inOrder : value.InOrder) :
    writeLine value = dump isPlain value := by
  induction inOrder with
  | null => rfl
  | bool value => cases value <;> rfl
  | number _ _ => rfl
  | string text => exact writeString_eq text
  | array _ each =>
      rw [writeLine, dump, dumpItems_eq, writeLineItems_eq, List.map_congr_left each,
        List.cons_append]
  | object ascending _ each =>
      rw [writeLine, dump_object ascending, writeLineFields_eq, List.cons_append]
      congr 3
      apply List.map_congr_left
      intro field member
      rw [writeString_eq, each field member]

/-! ## The delete character -/

/-- A value that has a text among its strings and the names of its fields. -/
inductive Value.Holds (text : String) : Value → Prop where
  | string : Holds text (.string text)
  | item {items : List Value} {item : Value} :
      item ∈ items → Holds text item → Holds text (.array items)
  | name {fields : List (String × Value)} {value : Value} :
      (text, value) ∈ fields → Holds text (.object fields)
  | field {fields : List (String × Value)} {field : String × Value} :
      field ∈ fields → Holds text field.2 → Holds text (.object fields)

section Listed

variable {pieces : List (List Char)} {piece : List Char} {c : Char}

theorem mem_listed (inPieces : piece ∈ pieces) (member : c ∈ piece) : c ∈ Dump.listed pieces := by
  rw [Dump.listed]
  induction pieces with
  | nil => cases inPieces
  | cons first others ih =>
      cases others with
      | nil =>
          rw [List.intercalate_singleton, ← List.mem_singleton.mp inPieces]
          exact member
      | cons next rest =>
          rw [List.intercalate_cons_cons, List.mem_append, List.mem_append]
          rcases List.mem_cons.mp inPieces with rfl | later
          · exact Or.inl (Or.inl member)
          · exact Or.inr (ih later)

theorem isPrintable_of_mem_listed
    (each : ∀ piece ∈ pieces, ∀ c ∈ piece, Dump.isPrintable c = true)
    (member : c ∈ Dump.listed pieces) : Dump.isPrintable c = true := by
  rw [Dump.listed] at member
  induction pieces with
  | nil => cases member
  | cons first others ih =>
      cases others with
      | nil =>
          rw [List.intercalate_singleton] at member
          exact each first List.mem_cons_self c member
      | cons next rest =>
          rw [List.intercalate_cons_cons, List.mem_append, List.mem_append] at member
          rcases member with (inFirst | inSeparator) | later
          · exact each first List.mem_cons_self c inFirst
          · have separator : [',', ' '].all Dump.isPrintable = true := by decide
            exact List.all_eq_true.mp separator c inSeparator
          · exact ih (fun piece inRest => each piece (List.mem_cons_of_mem _ inRest)) later

end Listed

section Delete

variable {text : String} {value : Value} {c : Char}

theorem delete_mem_writeString (member : '\x7F' ∈ text.toList) :
    '\x7F' ∈ writeString .ascii text := by
  have written : '\x7F' ∈ writeChar .ascii '\x7F' := by decide
  have inside : '\x7F' ∈ text.toList.flatMap (writeChar .ascii) :=
    List.mem_flatMap.mpr ⟨'\x7F', member, written⟩
  simp [writeString, inside]

theorem mem_writeLine_array {items : List Value} {item : Value}
    (inItems : item ∈ items) (member : c ∈ writeLine item) : c ∈ writeLine (.array items) := by
  have listed : c ∈ writeLineItems items := by
    rw [writeLineItems_eq]
    exact mem_listed (List.mem_map_of_mem inItems) member
  simp [writeLine, listed]

theorem mem_writeLine_object {fields : List (String × Value)} {field : String × Value}
    (inFields : field ∈ fields)
    (member : c ∈ writeString .ascii field.1 ∨ c ∈ writeLine field.2) :
    c ∈ writeLine (.object fields) := by
  have listed : c ∈ writeLineFields fields := by
    rw [writeLineFields_eq]
    apply mem_listed (List.mem_map.mpr ⟨field, inFields, rfl⟩)
    rcases member with inName | inValue
    · simp [inName]
    · simp [inValue]
  simp [writeLine, listed]

/-- The delete character is written as it stands. -/
theorem delete_mem_writeLine (holds : value.Holds text) (member : '\x7F' ∈ text.toList) :
    '\x7F' ∈ writeLine value := by
  induction holds with
  | string => exact delete_mem_writeString member
  | item inItems _ ih => exact mem_writeLine_array inItems ih
  | name inFields => exact mem_writeLine_object inFields (Or.inl (delete_mem_writeString member))
  | field inFields _ ih => exact mem_writeLine_object inFields (Or.inr ih)

theorem isPrintable_of_mem_unitEscape {unit : Nat} (member : c ∈ unitEscape unit) :
    Dump.isPrintable c = true := by
  have digit (n : Nat) : Dump.isPrintable (hexDigit (n % 16)) = true := by
    have all : ∀ digit : Fin 16, Dump.isPrintable (hexDigit digit) = true := by decide
    exact all ⟨n % 16, Nat.mod_lt _ (by decide)⟩
  simp only [unitEscape, hexUnit, List.mem_cons, List.not_mem_nil, or_false] at member
  rcases member with rfl | rfl | rfl | rfl | rfl | rfl
  · decide
  · decide
  · exact digit _
  · exact digit _
  · exact digit _
  · exact digit _

theorem isPrintable_of_mem_character {d : Char}
    (member : c ∈ Dump.character Dump.isPrintable d) : Dump.isPrintable c = true := by
  cases short : shortEscapes.lookup d with
  | some letter =>
      have letters : ∀ entry ∈ shortEscapes, Dump.isPrintable entry.2 = true := by decide
      rcases List.lookup_eq_some_iff.mp short with ⟨before, after, table, _⟩
      have printable : Dump.isPrintable letter = true := letters (d, letter) (by simp [table])
      rw [Dump.character, short] at member
      simp only [List.mem_cons, List.not_mem_nil, or_false] at member
      rcases member with rfl | rfl
      · decide
      · exact printable
  | none =>
      cases plain : Dump.isPrintable d with
      | true =>
          rw [Dump.character, short] at member
          simp only [plain, if_true, List.mem_singleton] at member
          rw [member]
          exact plain
      | false =>
          rw [character_escaped short plain] at member
          rcases List.mem_flatMap.mp member with ⟨unit, _, written⟩
          exact isPrintable_of_mem_unitEscape written

theorem isPrintable_of_mem_string (member : c ∈ Dump.string Dump.isPrintable text) :
    Dump.isPrintable c = true := by
  rw [Dump.string, List.mem_cons, List.mem_append, List.mem_singleton] at member
  rcases member with rfl | inside | rfl
  · decide
  · rcases List.mem_flatMap.mp inside with ⟨d, _, written⟩
    exact isPrintable_of_mem_character written
  · decide

theorem isPrintable_of_isScalarChar (scalar : isScalarChar c = true) :
    Dump.isPrintable c = true := by
  have alphanumeric (isAlphanum : c.isAlphanum = true) :
      0x30 ≤ c.toNat ∧ c.toNat ≤ 0x7A := by
    have ranges : (decide ('A'.val ≤ c.val ∧ c.val ≤ 'Z'.val) ||
        (decide ('a'.val ≤ c.val) && decide (c.val ≤ 'z'.val)) ||
        (decide ('0'.val ≤ c.val) && decide (c.val ≤ '9'.val))) = true := isAlphanum
    have number : c.toNat = c.val.toNat := rfl
    simp only [Char.reduceVal, UInt32.le_iff_toNat_le, UInt32.reduceToNat, Bool.or_eq_true,
      Bool.and_eq_true, decide_eq_true_eq] at ranges
    omega
  simp only [isScalarChar, Bool.or_eq_true, beq_iff_eq] at scalar
  rcases scalar with ((isAlphanum | rfl) | rfl) | rfl
  · have range := alphanumeric isAlphanum
    simp only [Dump.isPrintable, Bool.and_eq_true, decide_eq_true_eq]
    omega
  · decide
  · decide
  · decide

/-- The reference form is printable throughout. -/
theorem isPrintable_of_mem_dump (inOrder : value.InOrder)
    (member : c ∈ dump Dump.isPrintable value) : Dump.isPrintable c = true := by
  induction inOrder generalizing c with
  | null =>
      have letters : "null".toList.all Dump.isPrintable = true := by decide
      exact List.all_eq_true.mp letters c member
  | bool value =>
      have letters : (toString value).toList.all Dump.isPrintable = true := by
        cases value <;> decide
      exact List.all_eq_true.mp letters c member
  | number isWord _ => exact isPrintable_of_isScalarChar (List.all_eq_true.mp isWord c member)
  | string text => exact isPrintable_of_mem_string member
  | array _ each =>
      rw [dump, dumpItems_eq, List.mem_cons, List.mem_append, List.mem_singleton] at member
      rcases member with rfl | inside | rfl
      · decide
      · refine isPrintable_of_mem_listed ?_ inside
        intro piece inPieces d inPiece
        rcases List.mem_map.mp inPieces with ⟨item, inItems, rfl⟩
        exact each item inItems inPiece
      · decide
  | object ascending _ each =>
      rw [dump_object ascending, List.mem_cons, List.mem_append, List.mem_singleton] at member
      rcases member with rfl | inside | rfl
      · decide
      · refine isPrintable_of_mem_listed ?_ inside
        intro piece inPieces d inPiece
        rcases List.mem_map.mp inPieces with ⟨field, inFields, rfl⟩
        rw [List.mem_append, List.mem_append] at inPiece
        rcases inPiece with (inName | inSeparator) | inValue
        · exact isPrintable_of_mem_string inName
        · have separator : [':', ' '].all Dump.isPrintable = true := by decide
          exact List.all_eq_true.mp separator d inSeparator
        · exact each field inFields inValue
      · decide

example :
    dump Dump.isPrintable (.object [("b", .array [.null, .string "\x7f"]), ("a", .bool true)]) =
      "\x7b\"a\": true, \"b\": [null, \"\\u007f\"]\x7d".toList := by
  decide

theorem string_congr {plain other : Char → Bool}
    (same : ∀ c ∈ text.toList, plain c = other c) :
    Dump.string plain text = Dump.string other text := by
  have characters : text.toList.flatMap (Dump.character plain) =
      text.toList.flatMap (Dump.character other) := by
    apply List.flatMap_congr
    intro c member
    rw [Dump.character, Dump.character, same c member]
  rw [Dump.string, Dump.string, characters]

/-- The reference form depends on the characters that the texts of the value have. -/
theorem dump_congr {plain other : Char → Bool} (inOrder : value.InOrder)
    (same : ∀ text, value.Holds text → ∀ c ∈ text.toList, plain c = other c) :
    dump plain value = dump other value := by
  induction inOrder with
  | null => rfl
  | bool value => rfl
  | number _ _ => rfl
  | string text => exact string_congr (same text .string)
  | array _ each =>
      rw [dump, dump, dumpItems_eq, dumpItems_eq]
      congr 3
      apply List.map_congr_left
      intro item member
      exact each item member fun text holds => same text (.item member holds)
  | object ascending _ each =>
      rw [dump_object ascending, dump_object ascending]
      congr 3
      apply List.map_congr_left
      intro field member
      rw [string_congr (same field.1 (.name member)),
        each field member fun text holds => same text (.field member holds)]

/-- The one-line layout is the reference form exactly when no text of the value holds the delete
character. -/
theorem writeLine_eq_reference_iff (inOrder : value.InOrder) :
    writeLine value = dump Dump.isPrintable value ↔
      ∀ text, value.Holds text → '\x7F' ∉ text.toList := by
  constructor
  · intro equal text holds member
    have written := delete_mem_writeLine holds member
    rw [equal] at written
    exact absurd (isPrintable_of_mem_dump inOrder written) (by decide)
  · intro free
    rw [writeLine_eq_dump inOrder]
    apply dump_congr inOrder
    intro text holds c member
    have notDelete : c ≠ '\x7F' := fun equal => free text holds (equal ▸ member)
    rw [isPlain, beq_eq_false_iff_ne.mpr notDelete, Bool.or_false]

end Delete

end HeaderBindings.Json
