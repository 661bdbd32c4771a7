import HeaderBindings.Proofs.Json.Lexing
import HeaderBindings.Proofs.Table

/-!
# Written values read back

A value has one sequence of tokens, and both layouts spell it: they differ in
blanks and in the way characters are written.  The reader takes the tokens of a
value one after another to the value itself, inside whatever containers are
open.  So a value in order, with its fields ascending, is read back from
either layout.
-/

namespace HeaderBindings.Json

/-- A value in order: the fields of its objects ascend, and its numbers are spelled as numbers. -/
inductive Value.InOrder : Value → Prop where
  | null : InOrder .null
  | bool (value : Bool) : InOrder (.bool value)
  | number {digits : String} :
      digits.toList.all isScalarChar = true → scalar? digits.toList = some (.number digits) →
      InOrder (.number digits)
  | string (text : String) : InOrder (.string text)
  | array {items : List Value} : (∀ item ∈ items, item.InOrder) → InOrder (.array items)
  | object {fields : List (String × Value)} :
      Table.Ascending fields → (∀ field ∈ fields, field.2.InOrder) → InOrder (.object fields)

attribute [simp] Value.InOrder.bool Value.InOrder.string

mutual

/-- The tokens of a value. -/
def valueTokens : Value → List Token
  | .null => [.scalar .null]
  | .bool value => [.scalar (.bool value)]
  | .number digits => [.scalar (.number digits)]
  | .string text => [.string text.toList]
  | .array items => .openBracket :: (itemTokens items ++ [.closeBracket])
  | .object fields => .openBrace :: (fieldTokens fields ++ [.closeBrace])

/-- The tokens of some items with commas between them. -/
def itemTokens : List Value → List Token
  | [] => []
  | [item] => valueTokens item
  | item :: next :: rest => valueTokens item ++ .comma :: itemTokens (next :: rest)

/-- The tokens of some fields with commas between them. -/
def fieldTokens : List (String × Value) → List Token
  | [] => []
  | [(name, value)] => .string name.toList :: .colon :: valueTokens value
  | (name, value) :: next :: rest =>
    .string name.toList :: .colon :: (valueTokens value ++ .comma :: fieldTokens (next :: rest))

end

/-! ## From a layout to the tokens -/

/-- A text that is read as some tokens, whatever follows, provided that it ends a word. -/
def Spells (text : List Char) (tokens : List Token) : Prop :=
  ∀ (rest : List Char) (later : List Token),
    Reads rest later → EndsWord rest → Reads (text ++ rest) (tokens ++ later)

section Spelling

variable {value : Value} {items : List Value} {fields : List (String × Value)}

theorem spells_nothing : Spells [] [] :=
  fun _ _ reads _ => reads

theorem spells_word {word : List Char}
    (isWord : word.all isScalarChar = true) (stands : scalar? word = some value) :
    Spells word [.scalar value] :=
  fun _ _ reads ends => reads.word ends isWord stands

theorem spells_null : Spells "null".toList [.scalar .null] :=
  spells_word (by decide) rfl

theorem spells_bool (value : Bool) : Spells (writeBool value) [.scalar (.bool value)] := by
  cases value with
  | true => exact spells_word (by decide) rfl
  | false => exact spells_word (by decide) rfl

theorem spells_string (charset : Charset) (text : String) :
    Spells (writeString charset text) [.string text.toList] :=
  fun _ _ reads _ => reads.string charset text

theorem Spells.between {text : List Char} {tokens : List Token} {first last : Char}
    {opening closing : Token}
    (spells : Spells text tokens)
    (isOpening : punctuation? first = some opening) (isClosing : punctuation? last = some closing)
    (ends : isScalarChar last = false) :
    Spells (first :: text ++ [last]) (opening :: (tokens ++ [closing])) := by
  intro rest later reads _
  have inner := spells _ _ (reads.punctuation isClosing) ends
  have outer := inner.punctuation isOpening
  simpa using outer

theorem spells_lineItems
    (each : ∀ item ∈ items, Spells (writeLine item) (valueTokens item)) :
    Spells (writeLineItems items) (itemTokens items) := by
  induction items with
  | nil => exact spells_nothing
  | cons item others ih =>
      cases others with
      | nil => exact each item List.mem_cons_self
      | cons next rest =>
          intro text later reads ends
          have following := ih (fun other member => each other (List.mem_cons_of_mem _ member))
            _ _ reads ends
          have blank := following.space (rfl : isSpace ' ' = true)
          have comma := blank.punctuation (rfl : punctuation? ',' = some .comma)
          have whole := each item List.mem_cons_self _ _ comma rfl
          simpa [writeLineItems, itemTokens] using whole

theorem Spells.field {text : List Char} {tokens : List Token}
    (spells : Spells text tokens) (charset : Charset) (name : String) :
    Spells (writeString charset name ++ ':' :: ' ' :: text)
      (.string name.toList :: .colon :: tokens) := by
  intro rest later reads ends
  have blank := (spells _ _ reads ends).space (rfl : isSpace ' ' = true)
  have colon := blank.punctuation (rfl : punctuation? ':' = some .colon)
  simpa using colon.string charset name

theorem spells_lineFields
    (each : ∀ field ∈ fields, Spells (writeLine field.2) (valueTokens field.2)) :
    Spells (writeLineFields fields) (fieldTokens fields) := by
  induction fields with
  | nil => exact spells_nothing
  | cons field others ih =>
      have first := (each field List.mem_cons_self).field .ascii field.1
      cases others with
      | nil => exact first
      | cons next rest =>
          intro text later reads ends
          have following := ih (fun other member => each other (List.mem_cons_of_mem _ member))
            _ _ reads ends
          have blank := following.space (rfl : isSpace ' ' = true)
          have comma := blank.punctuation (rfl : punctuation? ',' = some .comma)
          simpa [writeLineFields, fieldTokens] using first _ _ comma rfl

theorem spells_line (inOrder : value.InOrder) : Spells (writeLine value) (valueTokens value) := by
  induction inOrder with
  | null => exact spells_null
  | bool value => exact spells_bool value
  | number isWord stands => exact spells_word isWord stands
  | string text => exact spells_string .ascii text
  | array _ each => exact (spells_lineItems each).between rfl rfl rfl
  | object _ _ each => exact (spells_lineFields each).between rfl rfl rfl

theorem Reads.newLine {text : List Char} {tokens : List Token}
    (reads : Reads text tokens) (level : Nat) : Reads (newLine level ++ text) tokens := by
  have blanks (count : Nat) : Reads (List.replicate count ' ' ++ text) tokens := by
    induction count with
    | zero => exact reads
    | succ count ih => exact ih.space rfl
  exact (blanks (2 * level)).space rfl

theorem Spells.afterNewLine {text : List Char} {tokens : List Token}
    (spells : Spells text tokens) (level : Nat) : Spells (newLine level ++ text) tokens := by
  intro rest later reads ends
  rw [List.append_assoc]
  exact (spells _ _ reads ends).newLine level

theorem Spells.beforeNewLine {text : List Char} {tokens : List Token}
    (spells : Spells text tokens) (level : Nat) : Spells (text ++ newLine level) tokens := by
  intro rest later reads _
  rw [List.append_assoc]
  exact spells _ _ (reads.newLine level) rfl

theorem spells_indentedItems {level : Nat}
    (each : ∀ item ∈ items, Spells (writeIndented level item) (valueTokens item)) :
    Spells (writeIndentedItems level items) (itemTokens items) := by
  induction items with
  | nil => exact spells_nothing
  | cons item others ih =>
      have first := (each item List.mem_cons_self).afterNewLine level
      cases others with
      | nil => exact first
      | cons next rest =>
          intro text later reads ends
          have following := ih (fun other member => each other (List.mem_cons_of_mem _ member))
            _ _ reads ends
          have comma := following.punctuation (rfl : punctuation? ',' = some .comma)
          simpa [writeIndentedItems, itemTokens] using first _ _ comma rfl

theorem spells_indentedFields {level : Nat}
    (each : ∀ field ∈ fields, Spells (writeIndented level field.2) (valueTokens field.2)) :
    Spells (writeIndentedFields level fields) (fieldTokens fields) := by
  induction fields with
  | nil => exact spells_nothing
  | cons field others ih =>
      have first := ((each field List.mem_cons_self).field .unicode field.1).afterNewLine level
      cases others with
      | nil => simpa [writeIndentedFields, fieldTokens] using first
      | cons next rest =>
          intro text later reads ends
          have following := ih (fun other member => each other (List.mem_cons_of_mem _ member))
            _ _ reads ends
          have comma := following.punctuation (rfl : punctuation? ',' = some .comma)
          simpa [writeIndentedFields, fieldTokens] using first _ _ comma rfl

theorem spells_indented (inOrder : value.InOrder) (level : Nat) :
    Spells (writeIndented level value) (valueTokens value) := by
  induction inOrder generalizing level with
  | null => exact spells_null
  | bool value => exact spells_bool value
  | number isWord stands => exact spells_word isWord stands
  | string text => exact spells_string .unicode text
  | @array items _ each =>
      cases items with
      | nil => exact spells_nothing.between rfl rfl rfl
      | cons item rest =>
          have inside := spells_indentedItems fun item member => each item member (level + 1)
          exact (inside.beforeNewLine level).between rfl rfl rfl
  | @object fields _ _ each =>
      cases fields with
      | nil => exact spells_nothing.between rfl rfl rfl
      | cons field rest =>
          have inside := spells_indentedFields fun field member => each field member (level + 1)
          exact (inside.beforeNewLine level).between rfl rfl rfl

end Spelling

/-! ## From the tokens to the value -/

/-- Some tokens take the reader from a state to a state. -/
def Leads (start : ParseState) (tokens : List Token) (result : ParseState) : Prop :=
  tokens.foldlM parseStep start = some result

section Leading

variable {start between result : ParseState} {token : Token} {tokens later : List Token}
variable {items : List Value} {fields : List (String × Value)} {stack : List Frame}

theorem Leads.cons (step : parseStep start token = some between)
    (leads : Leads between tokens result) : Leads start (token :: tokens) result := by
  rw [Leads, List.foldlM_cons, step]
  exact leads

theorem Leads.append (first : Leads start tokens between) (second : Leads between later result) :
    Leads start (tokens ++ later) result := by
  rw [Leads, List.foldlM_append, first]
  exact second

theorem Leads.single (step : parseStep start token = some result) :
    Leads start [token] result :=
  Leads.cons step rfl

/-- A value is read alike as the first item of an array and as a later one. -/
theorem Leads.firstItem {value : Value}
    (leads : Leads (.value (.array [] :: stack)) (valueTokens value ++ tokens) result) :
    Leads (.firstItem stack) (valueTokens value ++ tokens) result := by
  cases value <;> exact leads

/-- The reader takes the tokens of a value to the value. -/
def ReadsBack (value : Value) : Prop :=
  ∀ stack, Leads (.value stack) (valueTokens value) (.done value stack)

theorem itemTokens_cons (item : Value) (rest : List Value) :
    ∃ more, itemTokens (item :: rest) = valueTokens item ++ more := by
  cases rest with
  | nil => exact ⟨[], (List.append_nil _).symm⟩
  | cons next rest => exact ⟨_, rfl⟩

-- `read` holds the items before these in reverse, as the reader keeps them.
theorem leads_items (each : ∀ item ∈ items, ReadsBack item) (some : items ≠ [])
    (read : List Value) :
    Leads (.value (.array read :: stack)) (itemTokens items ++ [.closeBracket])
      (.done (.array (read.reverse ++ items)) stack) := by
  induction items generalizing read with
  | nil => exact absurd rfl some
  | cons item others ih =>
      have first := each item List.mem_cons_self (.array read :: stack)
      cases others with
      | nil => exact first.append (.single (by simp [parseStep]))
      | cons next rest =>
          have following := ih (fun other member => each other (List.mem_cons_of_mem _ member))
            (by simp) (item :: read)
          rw [List.reverse_cons, List.append_assoc] at following
          rw [itemTokens, List.append_assoc, List.cons_append]
          exact first.append (.cons rfl following)

theorem leads_fields (each : ∀ field ∈ fields, ReadsBack field.2) (some : fields ≠ [])
    (first : Bool) (read : List (String × Value)) :
    Leads (.name first read stack) (fieldTokens fields ++ [.closeBrace])
      (.done (.ofFields (read.reverse ++ fields)) stack) := by
  induction fields generalizing first read with
  | nil => exact absurd rfl some
  | cons field others ih =>
      rcases field with ⟨name, value⟩
      have content := each (name, value) List.mem_cons_self (.object read name :: stack)
      have named {tokens : List Token} {result : ParseState}
          (leads : Leads (.value (.object read name :: stack)) tokens result) :
          Leads (.name first read stack) (.string name.toList :: .colon :: tokens) result :=
        .cons (by rw [parseStep, String.ofList_toList]) (.cons rfl leads)
      cases others with
      | nil => exact named (content.append (.single (by simp [parseStep])))
      | cons next rest =>
          have following := ih (fun other member => each other (List.mem_cons_of_mem _ member))
            (by simp) false ((name, value) :: read)
          rw [List.reverse_cons, List.append_assoc] at following
          rw [fieldTokens, List.cons_append, List.cons_append, List.append_assoc, List.cons_append]
          exact named (content.append (.cons rfl following))

theorem ofFields_eq (fields : List (String × Value)) :
    Value.ofFields fields = .object (Table.ofEntries fields) := by
  simp only [Value.ofFields, Table.insertField_eq_enter, Table.ofEntries]

theorem readsBack {value : Value} (inOrder : value.InOrder) : ReadsBack value := by
  intro stack
  induction inOrder generalizing stack with
  | null => exact .single rfl
  | bool value => exact .single rfl
  | number _ _ => exact .single rfl
  | string text => exact .single (by rw [parseStep, beginValue, String.ofList_toList])
  | @array items _ each =>
      cases items with
      | nil => exact .cons rfl (.single rfl)
      | cons item rest =>
          have inside : Leads (.value (.array [] :: stack))
              (itemTokens (item :: rest) ++ [.closeBracket])
              (.done (.array (item :: rest)) stack) :=
            leads_items each (by simp) []
          refine .cons rfl ?_
          rcases itemTokens_cons item rest with ⟨more, split⟩
          rw [split, List.append_assoc] at inside ⊢
          exact inside.firstItem
  | @object fields ascending _ each =>
      cases fields with
      | nil => exact .cons rfl (.single rfl)
      | cons field rest =>
          have inside : Leads (.name true [] stack)
              (fieldTokens (field :: rest) ++ [.closeBrace])
              (.done (.ofFields (field :: rest)) stack) :=
            leads_fields each (by simp) true []
          -- The reader enters the fields one by one; being in order already, they stay as they are.
          rw [ofFields_eq, Table.ofEntries_eq_self ascending] at inside
          exact .cons rfl inside

end Leading

theorem parse?_of_spells {text : List Char} {value : Value}
    (spells : Spells text (valueTokens value)) (inOrder : value.InOrder) :
    parse? (.ofList text) = some value := by
  have tokens : tokens? .between text = some (valueTokens value) := by
    simpa [Reads] using spells [] [] .nil rfl
  have result : (valueTokens value).foldlM parseStep (.value []) = some (.done value []) :=
    readsBack inOrder []
  rw [parse?, String.toList_ofList, tokens, Option.bind_some, result]

/-- A value in order is read back from its one-line layout. -/
theorem parse?_line {value : Value} (inOrder : value.InOrder) :
    parse? value.line = some value :=
  parse?_of_spells (spells_line inOrder) inOrder

/-- A value in order is read back from its indented layout. -/
theorem parse?_indented {value : Value} (inOrder : value.InOrder) :
    parse? value.indented = some value :=
  parse?_of_spells (spells_indented inOrder 0) inOrder

end HeaderBindings.Json
