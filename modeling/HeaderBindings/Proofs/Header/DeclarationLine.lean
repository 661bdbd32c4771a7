import HeaderBindings.Header.Comment
import HeaderBindings.Header.Docs
import HeaderBindings.Header.Marker
import HeaderBindings.Proofs.Preprocessor.Liveness

/-!
# The physical lines of a declaration

A declaration consists of words, and a line of it shows some of them, behind an
indentation and in front of a line comment.  Such a line is no directive, it
has no part in a documentation comment, and without its comment nothing is left
of it but its words.
-/

namespace HeaderBindings.Header

open Text (isBlank)

/-! ## Words -/

/-- A word without quotes, number signs and the delimiters of comments. -/
def isBare (word : String) : Bool :=
  !word.toList.isEmpty &&
    word.toList.all (fun c => !isBlank c && !(['"', '\x27', '#'].contains c)) &&
    !(["//", "/*", "*/"].any (Text.contains word))

section

variable {word : String} {words : List String} {c : Char}

theorem nonempty_of_bare (bare : isBare word = true) : word.toList ≠ [] := by
  intro empty
  simp [isBare, empty] at bare

theorem isBlank_of_bare (bare : isBare word = true) (member : c ∈ word.toList) :
    isBlank c = false := by
  simp only [isBare, Bool.and_eq_true, List.all_eq_true, Bool.not_eq_true'] at bare
  exact (bare.1.2 c member).1

theorem noBlanks_of_bare (bare : isBare word = true) : word.toList.any isBlank = false := by
  rw [List.any_eq_false]
  intro c member
  simp [isBlank_of_bare bare member]

theorem special_of_bare (bare : isBare word = true) (member : c ∈ word.toList) :
    c ∉ ['"', '\x27', '#'] := by
  simp only [isBare, Bool.and_eq_true, List.all_eq_true, Bool.not_eq_true'] at bare
  intro special
  have absent := (bare.1.2 c member).2
  rw [List.contains_iff_mem.mpr special] at absent
  cases absent

theorem delimiter_of_bare (bare : isBare word = true) {delimiter : String}
    (isDelimiter : delimiter ∈ ["//", "/*", "*/"]) : Text.contains word delimiter = false := by
  simp only [isBare, Bool.and_eq_true, Bool.not_eq_true', List.any_eq_false] at bare
  simpa using bare.2 delimiter isDelimiter

end

/-! ## The start of a line -/

/-- The text of a line in front of its first blank. -/
def firstField (line : String) : String :=
  .ofList (line.toList.takeWhile fun c => !isBlank c)

section

variable {word line : String}

theorem firstField_append (noBlanks : word.toList.any isBlank = false) {rest : String}
    (apart : rest.toList.head?.all isBlank = true) : firstField (word ++ rest) = word := by
  apply String.toList_injective
  rw [firstField, String.toList_ofList, String.toList_append, List.takeWhile_append_of_pos]
  · cases chars : rest.toList with
    | nil => simp
    | cons c others =>
        rw [chars] at apart
        have blank : isBlank c = true := apart
        simp [blank]
  · intro c member
    rw [List.any_eq_false] at noBlanks
    simp [noBlanks c member]

theorem startsWith_numberSign_of_bare (bare : isBare (firstField line) = true) :
    Text.startsWith line "#" = false := by
  rw [← Bool.not_eq_true, Text.startsWith_iff_exists]
  rintro ⟨rest, rfl⟩
  have first : '#' ∈ (firstField ("#" ++ rest)).toList := by
    rw [firstField, String.toList_ofList, String.toList_append]
    exact List.mem_cons_self
  exact special_of_bare bare first (by decide)

theorem dropHead?_reference_of_bare (bare : isBare (firstField line) = true) :
    Text.dropHead? line "// #docs_func " = none := by
  cases found : Text.dropHead? line "// #docs_func " with
  | none => rfl
  | some rest =>
      have split : line = "//" ++ (" #docs_func " ++ rest) := by
        rw [Text.dropHead?_eq_some_iff.mp found, ← String.append_assoc]
        rfl
      rw [split, firstField_append (by decide) (by rw [String.toList_append]; rfl)] at bare
      exact absurd bare (by decide)

theorem ne_delimiter_of_bare (bare : isBare (firstField line) = true) :
    line ≠ "*/" ∧ line ≠ "/**" := by
  constructor
  · rintro rfl
    exact absurd bare (by decide)
  · rintro rfl
    exact absurd bare (by decide)

theorem afterMarker?_eq_none {spelling : String} (isMarker : spelling ∈ markers.map Prod.fst)
    (different : firstField line ≠ spelling) : afterMarker? line spelling = none := by
  rw [afterMarker?]
  cases found : Text.dropHead? line spelling with
  | none => rfl
  | some rest =>
      dsimp only
      split
      · rename_i apart
        have noBlanks : ∀ spelling ∈ markers.map Prod.fst,
            spelling.toList.any isBlank = false := by decide
        have first : firstField line = spelling := by
          rw [Text.dropHead?_eq_some_iff.mp found]
          apply firstField_append (noBlanks spelling isMarker)
          cases chars : rest.toList with
          | nil => rfl
          | cons c others => simpa [chars] using apart
        exact absurd first different
      · rfl

/-- There is no documentation right below a line that starts with a bare word. -/
theorem docsAbove_bare (number : Nat) {nearest : String} (above : List String)
    (bare : isBare (firstField nearest) = true) :
    docsAbove number (nearest :: above) = (.absent, []) := by
  have closing : (nearest == "*/") = false := beq_eq_false_iff_ne.mpr (ne_delimiter_of_bare bare).1
  rw [docsAbove, dropHead?_reference_of_bare bare]
  simp [closing]

theorem readMarker_of_unmarked (unmarked : firstField line ∉ markers.map Prod.fst) :
    readMarker line = (none, line) := by
  rw [readMarker, List.findSome?_eq_none_iff.mpr]
  · rfl
  · intro entry isEntry
    have isMarker : entry.1 ∈ markers.map Prod.fst := List.mem_map_of_mem isEntry
    rw [afterMarker?_eq_none isMarker fun first => unmarked (first ▸ isMarker)]
    rfl

end

/-! ## Line comments -/

/-- Plain text in front of a line is no part of its comment. -/
theorem beforeComment?_append {text rest : List Char}
    (unquoted : ∀ c ∈ text, c ≠ '"' ∧ c ≠ '\x27')
    (noComment : ¬ ['/', '/'] <:+: text)
    (apart : rest.head? ≠ some '/') :
    beforeComment? .code (text ++ rest) = (beforeComment? .code rest).map (text ++ ·) := by
  induction text with
  | nil => simp
  | cons c text ih =>
      have plain := unquoted c List.mem_cons_self
      have sameState : LiteralState.code.next c = .code := by
        simp [LiteralState.next, plain.1, plain.2]
      have noStart : ¬ (c = '/' ∧ (text ++ rest).head? = some '/') := by
        rintro ⟨rfl, slash⟩
        cases text with
        | nil => exact apart slash
        | cons d text =>
            obtain rfl : d = '/' := Option.some.inj slash
            exact noComment ⟨[], text, rfl⟩
      have later := ih (fun d member => unquoted d (List.mem_cons_of_mem _ member))
        fun inText => noComment (List.infix_cons inText)
      rw [List.cons_append, beforeComment?, sameState, if_neg (fun start => noStart start.2),
        later, Option.map_map]
      rfl

section

variable {word : String} {words : List String}

theorem beforeComment?_word (bare : isBare word = true) {rest : List Char}
    (apart : rest.head? ≠ some '/') :
    beforeComment? .code (word.toList ++ rest) =
      (beforeComment? .code rest).map (word.toList ++ ·) := by
  apply beforeComment?_append _ _ apart
  · intro c member
    have special := special_of_bare bare member
    simp only [List.mem_cons, not_or] at special
    exact ⟨special.1, special.2.1⟩
  · intro slashes
    have free : (Text.cut? ['/', '/'] word.toList).isSome = false :=
      delimiter_of_bare bare List.mem_cons_self
    rw [Text.isSome_cut?_iff.mpr slashes] at free
    cases free

theorem beforeComment?_words
    (bare : words.all isBare = true) (nonempty : words ≠ []) {rest : List Char}
    (apart : rest.head? ≠ some '/') :
    beforeComment? .code ((Text.joinWith " " words).toList ++ rest) =
      (beforeComment? .code rest).map ((Text.joinWith " " words).toList ++ ·) := by
  induction words with
  | nil => exact absurd rfl nonempty
  | cons word words ih =>
      rw [List.all_cons, Bool.and_eq_true] at bare
      by_cases last : words = []
      · rw [last, Text.joinWith_singleton]
        exact beforeComment?_word bare.1 apart
      · have blank (rest : List Char) :
            beforeComment? .code (' ' :: rest) = (beforeComment? .code rest).map (' ' :: ·) := by
          rw [beforeComment?, if_neg (by simp)]
          rfl
        rw [Text.joinWith_cons _ word last, String.toList_append, String.toList_append,
          List.append_assoc, beforeComment?_word bare.1 (by simp)]
        show (beforeComment? .code (' ' :: ((Text.joinWith " " words).toList ++ rest))).map _ = _
        rw [blank, ih bare.2 last, Option.map_map, Option.map_map]
        congr 1
        funext before
        simp

theorem joinWith_nonempty (bare : words.all isBare = true) (nonempty : words ≠ []) :
    (Text.joinWith " " words).toList ≠ [] :=
  Text.joinWith_nonempty
    (fun word member => nonempty_of_bare (List.all_eq_true.mp bare word member)) nonempty

theorem trimmed_joinWith (bare : words.all isBare = true) :
    Text.Trimmed (Text.joinWith " " words) := by
  have isWord (word : String) (member : word ∈ words) : isBare word = true :=
    List.all_eq_true.mp bare word member
  refine Text.trimmed_joinWith (fun word member => nonempty_of_bare (isWord word member)) ?_
  intro word member
  exact ⟨fun _ => isBlank_of_bare (isWord word member) (List.head_mem _),
    fun _ => isBlank_of_bare (isWord word member) (List.getLast_mem _)⟩

/-- What may stand behind the words of a line: nothing, or a line comment. -/
def IsTail (tail : String) : Prop :=
  tail = "" ∨ ∃ comment, tail = " //" ++ comment

theorem stripLineComment_words
    (bare : words.all isBare = true) (nonempty : words ≠ []) {tail : String}
    (isTail : IsTail tail) :
    stripLineComment (Text.joinWith " " words ++ tail) = Text.joinWith " " words := by
  rw [stripLineComment, String.toList_append]
  rcases isTail with rfl | ⟨comment, rfl⟩
  · rw [beforeComment?_words bare nonempty (by simp)]
    exact String.append_empty
  · have before : beforeComment? .code (" //" ++ comment).toList = some [' '] := by
      rw [String.toList_append]
      rfl
    rw [beforeComment?_words bare nonempty (by simp), before]
    apply String.toList_injective
    dsimp only [Option.map_some]
    rw [String.toList_ofList, Text.dropEndWhile_eq_rdropWhile,
      List.rdropWhile_concat_pos _ _ _ (by decide), List.rdropWhile_eq_self_iff]
    intro nonempty
    simp [(trimmed_joinWith bare).finish nonempty]

end

/-! ## Lines -/

/-- A line that shows some words of a declaration. -/
structure DeclarationLine where
  indent : String
  words : List String
  comment : Option String := none
  blank : indent.toList.all isBlank = true
  bare : words.all isBare = true
  nonempty : words ≠ []

namespace DeclarationLine

variable (line : DeclarationLine)

def code : String :=
  Text.joinWith " " line.words

/-- The line as it stands in a header. -/
def text : String :=
  line.indent ++ (line.code ++ (line.comment.map (" // " ++ ·)).getD "")

/-- The line without the blanks at its ends. -/
def trimmed : String :=
  Text.trim line.text

theorem trimmed_eq : ∃ tail, line.trimmed = line.code ++ tail ∧ IsTail tail := by
  refine ⟨_, Text.trim_indented _ (List.all_eq_true.mp line.blank) (trimmed_joinWith line.bare)
    (joinWith_nonempty line.bare line.nonempty), ?_⟩
  cases line.comment with
  | none => exact .inl rfl
  | some comment =>
      have split : (" // " ++ comment).toList = " //".toList ++ (" " ++ comment).toList := by
        rw [String.toList_append, String.toList_append]
        rfl
      refine .inr ⟨.ofList ((" " ++ comment).toList.rdropWhile isBlank), ?_⟩
      apply String.toList_injective
      dsimp only [Option.map_some, Option.getD_some]
      rw [Text.trimEnd, String.toList_ofList, Text.dropEndWhile_eq_rdropWhile, split,
        Text.rdropWhile_append_of_last _ (fun _ => rfl)]
      simp only [String.toList_append, String.toList_ofList]

theorem stripLineComment_trimmed : stripLineComment line.trimmed = line.code := by
  rcases line.trimmed_eq with ⟨tail, split, isTail⟩
  rw [split]
  exact stripLineComment_words line.bare line.nonempty isTail

/-- A line starts with the first of its words. -/
theorem firstField_trimmed : some (firstField line.trimmed) = line.words.head? := by
  rcases line.trimmed_eq with ⟨tail, split, isTail⟩
  have bare := line.bare
  rw [split, code]
  cases shown : line.words with
  | nil => exact absurd shown line.nonempty
  | cons word words =>
      rw [shown, List.all_cons, Bool.and_eq_true] at bare
      have tailApart : tail.toList.head?.all isBlank = true := by
        rcases isTail with rfl | ⟨comment, rfl⟩
        · rfl
        · rw [String.toList_append]
          rfl
      rw [List.head?_cons, Option.some.injEq]
      by_cases last : words = []
      · rw [last, Text.joinWith_singleton]
        exact firstField_append (noBlanks_of_bare bare.1) tailApart
      · rw [Text.joinWith_cons _ word last, String.append_assoc]
        apply firstField_append (noBlanks_of_bare bare.1)
        rw [String.toList_append, String.toList_append]
        rfl

theorem bare_firstField : isBare (firstField line.trimmed) = true := by
  have first := List.mem_of_head? line.firstField_trimmed.symm
  exact List.all_eq_true.mp line.bare _ first

theorem directive_trimmed : Preprocessor.Directive.ofLine line.trimmed = .code := by
  apply Preprocessor.Directive.ofLine_code
  rw [show Text.trim line.trimmed = line.trimmed from (Text.trimmed_trim line.text).trim_eq]
  exact startsWith_numberSign_of_bare line.bare_firstField

theorem readMarker_trimmed (unmarked : ∀ word ∈ line.words, word ∉ markers.map Prod.fst) :
    readMarker line.trimmed = (none, line.trimmed) :=
  readMarker_of_unmarked (unmarked _ (List.mem_of_head? line.firstField_trimmed.symm))

end DeclarationLine

end HeaderBindings.Header
