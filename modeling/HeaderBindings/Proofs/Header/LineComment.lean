import HeaderBindings.Header.Comment
import HeaderBindings.Proofs.Text.Slice

/-!
# Line comments

A line consists of characters of code and of literals, and the last literal may
be left open by the end of the line.  Every text is read in this way as exactly
one line, so it is settled what stands outside its literals.  The line comment
starts at the first two slashes there; the line without it is the text in front
of them, without the blanks at its end.
-/

namespace HeaderBindings.Header

open Text (isBlank)

/-! ## Tokens -/

/-- Whether a character opens a literal. -/
def isQuote (c : Char) : Bool :=
  c == '"' || c == '\''

/-- A character of a literal with this quote, or a backslash with the character that it escapes. -/
inductive QuotedPart (quote : Char) where
  | plain (c : Char) (isPlain : c ≠ quote ∧ c ≠ '\\')
  | escape (c : Char)

def QuotedPart.chars {quote : Char} : QuotedPart quote → List Char
  | plain c _ => [c]
  | escape c => ['\\', c]

/-- A character of code, or a literal with both of its quotes. -/
inductive LineToken where
  | code (c : Char) (isCode : isQuote c = false)
  | literal (quote : Char) (opens : isQuote quote = true) (parts : List (QuotedPart quote))

namespace LineToken

def chars : LineToken → List Char
  | code c _ => [c]
  | literal quote _ parts => quote :: (parts.flatMap QuotedPart.chars ++ [quote])

/-- A slash outside literals. -/
def slash : LineToken :=
  code '/' (by decide)

end LineToken

/-- A backslash at the end of a line, which has nothing to escape, or nothing. -/
def lastBackslash (stands : Bool) : List Char :=
  if stands then ['\\'] else []

/-- A literal that ends with its line. -/
structure OpenLiteral where
  quote : Char
  opens : isQuote quote = true
  parts : List (QuotedPart quote)
  backslash : Bool

def OpenLiteral.chars (literal : OpenLiteral) : List Char :=
  literal.quote :: (literal.parts.flatMap QuotedPart.chars ++ lastBackslash literal.backslash)

/-- What stands behind the last token of a line. -/
def openChars (literal : Option OpenLiteral) : List Char :=
  (literal.map OpenLiteral.chars).getD []

/-- Two slashes stand side by side outside literals. -/
def Commented (tokens : List LineToken) : Prop :=
  [LineToken.slash, .slash] <:+: tokens

/-- A line in tokens. -/
structure LexedLine where
  tokens : List LineToken
  openLiteral : Option OpenLiteral

namespace LexedLine

def chars (line : LexedLine) : List Char :=
  line.tokens.flatMap LineToken.chars ++ openChars line.openLiteral

def cons (line : LexedLine) (token : LineToken) : LexedLine :=
  ⟨token :: line.tokens, line.openLiteral⟩

theorem chars_cons (line : LexedLine) (token : LineToken) :
    (line.cons token).chars = token.chars ++ line.chars := by
  rw [chars, cons, List.flatMap_cons, List.append_assoc, chars]

/-- What a line shows apart from its line comment. -/
inductive Shows (line : LexedLine) : List Char → Prop where
  /-- All of it, if there is no comment. -/
  | whole (noComment : ¬ Commented line.tokens) : line.Shows line.chars
  /-- Else the text in front of the first two slashes, without the blanks at its end. -/
  | cut {before after : List LineToken} {shown blanks : List Char}
      (split : line.tokens = before ++ LineToken.slash :: .slash :: after)
      (first : ¬ Commented (before ++ [.slash]))
      (text : before.flatMap LineToken.chars = shown ++ blanks)
      (blank : ∀ c ∈ blanks, isBlank c = true)
      (finish : ∀ nonempty : shown ≠ [], isBlank (shown.getLast nonempty) = false) :
      line.Shows shown

end LexedLine

section

variable {quote : Char} {parts others : List (QuotedPart quote)} {rest more : List Char}
variable {tokens before after : List LineToken} {line : LexedLine}

/-! ## Every text is one line -/

theorem ne_of_isQuote {d : Char} (opens : isQuote quote = true) (other : isQuote d = false) :
    quote ≠ d := by
  rintro rfl
  rw [opens] at other
  cases other

/-- A text consists of parts of a literal up to its quote, or up to the end of the line. -/
def ContinuesLiteral (quote : Char) (text : List Char) : Prop :=
  ∃ parts : List (QuotedPart quote),
    (∃ rest, text = parts.flatMap QuotedPart.chars ++ quote :: rest) ∨
    ∃ backslash, text = parts.flatMap QuotedPart.chars ++ lastBackslash backslash

theorem ContinuesLiteral.part (continued : ContinuesLiteral quote rest) (part : QuotedPart quote) :
    ContinuesLiteral quote (part.chars ++ rest) := by
  rcases continued with ⟨parts, ⟨behind, rfl⟩ | ⟨backslash, rfl⟩⟩
  · exact ⟨part :: parts, .inl ⟨behind, by simp⟩⟩
  · exact ⟨part :: parts, .inr ⟨backslash, by simp⟩⟩

theorem continuesLiteral (quote : Char) (text : List Char) : ContinuesLiteral quote text := by
  -- an escape takes two characters, so the induction is on the length
  induction size : text.length using Nat.strongRecOn generalizing text with
  | ind n ih =>
      cases text with
      | nil => exact ⟨[], .inr ⟨false, rfl⟩⟩
      | cons c rest =>
          rw [List.length_cons] at size
          by_cases closes : c = quote
          · exact ⟨[], .inl ⟨rest, by rw [closes]; rfl⟩⟩
          by_cases escapes : c = '\\'
          · subst escapes
            cases rest with
            | nil => exact ⟨[], .inr ⟨true, rfl⟩⟩
            | cons d rest =>
                rw [List.length_cons] at size
                exact (ih rest.length (by omega) rest rfl).part (.escape d)
          · exact (ih rest.length (by omega) rest rfl).part (.plain c ⟨closes, escapes⟩)

theorem exists_lexedLine (text : List Char) : ∃ line : LexedLine, line.chars = text := by
  -- a literal is taken as a whole, so the induction is on the length
  induction size : text.length using Nat.strongRecOn generalizing text with
  | ind n ih =>
      cases text with
      | nil => exact ⟨⟨[], none⟩, rfl⟩
      | cons c rest =>
          rw [List.length_cons] at size
          cases opens : isQuote c with
          | false =>
              rcases ih rest.length (by omega) rest rfl with ⟨line, isRest⟩
              exact ⟨line.cons (.code c opens), by rw [LexedLine.chars_cons, isRest]; rfl⟩
          | true =>
              rcases continuesLiteral c rest with ⟨parts, ⟨behind, rfl⟩ | ⟨backslash, rfl⟩⟩
              · rw [List.length_append, List.length_cons] at size
                rcases ih behind.length (by omega) behind rfl with ⟨line, isBehind⟩
                refine ⟨line.cons (.literal c opens parts), ?_⟩
                rw [LexedLine.chars_cons, isBehind]
                simp [LineToken.chars]
              · exact ⟨⟨[], some ⟨c, opens, parts, backslash⟩⟩, rfl⟩

/-- What may stand behind parts of a literal: its quote, or the end of the line. -/
def EndsParts (quote : Char) (rest : List Char) : Prop :=
  rest = [] ∨ rest = ['\\'] ∨ rest.head? = some quote

theorem endsParts_closed : EndsParts quote (quote :: rest) :=
  .inr (.inr rfl)

theorem endsParts_open (backslash : Bool) : EndsParts quote (lastBackslash backslash) := by
  cases backslash with
  | false => exact .inl rfl
  | true => exact .inr (.inl rfl)

theorem not_endsParts (opens : isQuote quote = true) (part : QuotedPart quote) :
    ¬ EndsParts quote (part.chars ++ rest) := by
  have notBackslash : '\\' ≠ quote := (ne_of_isQuote opens (by decide)).symm
  cases part with
  | plain c isPlain =>
      rintro (empty | single | closes)
      · cases empty
      · exact isPlain.2 (List.cons.inj single).1
      · exact isPlain.1 (Option.some.inj closes)
  | escape c =>
      rintro (empty | single | closes)
      · cases empty
      · cases (List.cons.inj single).2
      · exact notBackslash (Option.some.inj closes)

/-- The parts of a literal can be told from its text. -/
theorem quotedParts_unique (opens : isQuote quote = true)
    (ends : EndsParts quote rest) (alsoEnds : EndsParts quote more)
    (same : parts.flatMap QuotedPart.chars ++ rest = others.flatMap QuotedPart.chars ++ more) :
    parts = others ∧ rest = more := by
  induction parts generalizing others with
  | nil =>
      cases others with
      | nil => exact ⟨rfl, same⟩
      | cons other others =>
          rw [List.flatMap_nil, List.nil_append, List.flatMap_cons, List.append_assoc] at same
          rw [same] at ends
          exact absurd ends (not_endsParts opens other)
  | cons part parts ih =>
      cases others with
      | nil =>
          rw [List.flatMap_nil, List.nil_append, List.flatMap_cons, List.append_assoc] at same
          rw [← same] at alsoEnds
          exact absurd alsoEnds (not_endsParts opens part)
      | cons other others =>
          rw [List.flatMap_cons, List.flatMap_cons, List.append_assoc, List.append_assoc] at same
          cases part with
          | plain c isPlain =>
              cases other with
              | plain d isOther =>
                  rcases List.cons.inj same with ⟨rfl, behind⟩
                  rcases ih behind with ⟨rfl, sameRest⟩
                  exact ⟨rfl, sameRest⟩
              | escape d => exact absurd (List.cons.inj same).1 isPlain.2
          | escape c =>
              cases other with
              | plain d isOther => exact absurd (List.cons.inj same).1.symm isOther.2
              | escape d =>
                  rcases List.cons.inj (List.cons.inj same).2 with ⟨rfl, behind⟩
                  rcases ih behind with ⟨rfl, sameRest⟩
                  exact ⟨rfl, sameRest⟩

theorem LineToken.chars_unique {token other : LineToken}
    (same : token.chars ++ rest = other.chars ++ more) : token = other ∧ rest = more := by
  cases token with
  | code c isCode =>
      cases other with
      | code d isOther =>
          rcases List.cons.inj same with ⟨rfl, sameRest⟩
          exact ⟨rfl, sameRest⟩
      | literal quote opens parts =>
          exact absurd (List.cons.inj same).1.symm (ne_of_isQuote opens isCode)
  | literal quote opens parts =>
      cases other with
      | code d isOther => exact absurd (List.cons.inj same).1 (ne_of_isQuote opens isOther)
      | literal quote' opens' others =>
          simp only [chars, List.cons_append, List.append_assoc, List.nil_append] at same
          rcases List.cons.inj same with ⟨rfl, inner⟩
          rcases quotedParts_unique opens endsParts_closed endsParts_closed inner
            with ⟨rfl, behind⟩
          exact ⟨rfl, (List.cons.inj behind).2⟩

theorem OpenLiteral.chars_ne_token (literal : OpenLiteral) (token : LineToken) :
    literal.chars ≠ token.chars ++ rest := by
  intro same
  cases token with
  | code c isCode => exact ne_of_isQuote literal.opens isCode (List.cons.inj same).1
  | literal quote opens parts =>
      simp only [chars, LineToken.chars, List.cons_append, List.append_assoc,
        List.nil_append] at same
      rcases List.cons.inj same with ⟨rfl, inner⟩
      have closed := (quotedParts_unique literal.opens (endsParts_open _) endsParts_closed inner).2
      cases stands : literal.backslash with
      | false =>
          rw [stands] at closed
          cases closed
      | true =>
          rw [stands] at closed
          exact ne_of_isQuote literal.opens (by decide) (List.cons.inj closed).1.symm

theorem OpenLiteral.chars_injective : Function.Injective OpenLiteral.chars := by
  rintro ⟨quote, opens, parts, backslash⟩ ⟨quote', opens', others, backslash'⟩ same
  rcases List.cons.inj same with ⟨sameQuote, inner⟩
  dsimp only at sameQuote
  subst sameQuote
  rcases quotedParts_unique opens (endsParts_open _) (endsParts_open _) inner with ⟨rfl, ending⟩
  cases backslash <;> cases backslash' <;> simp_all [lastBackslash]

theorem openChars_injective : Function.Injective openChars := by
  intro literal other same
  cases literal with
  | none =>
      cases other with
      | none => rfl
      | some other => cases same
  | some literal =>
      cases other with
      | none => cases same
      | some other => exact congrArg some (OpenLiteral.chars_injective same)

theorem openChars_ne_token (literal : Option OpenLiteral) (token : LineToken) :
    openChars literal ≠ token.chars ++ rest := by
  cases literal with
  | none =>
      intro same
      cases token with
      | code => cases same
      | literal => cases same
  | some literal => exact literal.chars_ne_token token

/-- A text is one line only. -/
theorem LexedLine.chars_injective : Function.Injective LexedLine.chars := by
  rintro ⟨tokens, literal⟩ ⟨others, other⟩ same
  simp only [LexedLine.chars] at same
  induction tokens generalizing others with
  | nil =>
      cases others with
      | nil => rw [openChars_injective same]
      | cons token others =>
          rw [List.flatMap_cons, List.append_assoc] at same
          exact absurd same (openChars_ne_token literal token)
  | cons token tokens ih =>
      cases others with
      | nil =>
          rw [List.flatMap_cons, List.append_assoc] at same
          exact absurd same.symm (openChars_ne_token other token)
      | cons token' others =>
          rw [List.flatMap_cons, List.flatMap_cons, List.append_assoc, List.append_assoc] at same
          rcases LineToken.chars_unique same with ⟨rfl, behind⟩
          rcases LexedLine.mk.inj (ih others behind) with ⟨rfl, rfl⟩
          rfl

/-! ## The search for the comment -/

theorem Commented.of_prefix (isPrefix : before <+: tokens) (commented : Commented before) :
    Commented tokens :=
  commented.trans isPrefix.isInfix

/-- The search goes through the parts of a literal. -/
theorem beforeComment?_quotedParts (parts : List (QuotedPart quote)) (rest : List Char) :
    beforeComment? (.literal quote false) (parts.flatMap QuotedPart.chars ++ rest) =
      (beforeComment? (.literal quote false) rest).map (parts.flatMap QuotedPart.chars ++ ·) := by
  induction parts with
  | nil => simp
  | cons part parts ih =>
      cases part with
      | plain c isPlain =>
          have next : LiteralState.next (.literal quote false) c = .literal quote false := by
            simp [LiteralState.next, isPlain.1, isPlain.2]
          rw [List.flatMap_cons, QuotedPart.chars, List.append_assoc, List.singleton_append,
            beforeComment?, if_neg (by simp), next, ih, Option.map_map]
          rfl
      | escape c =>
          have opened : LiteralState.next (.literal quote false) '\\' = .literal quote true := rfl
          have next : LiteralState.next (.literal quote true) c = .literal quote false := rfl
          rw [List.flatMap_cons, QuotedPart.chars, List.append_assoc, List.cons_append,
            List.singleton_append, beforeComment?, if_neg (by simp), opened, beforeComment?,
            if_neg (by simp), next, ih, Option.map_map, Option.map_map]
          rfl

theorem beforeComment?_quote (opens : isQuote quote = true) (rest : List Char) :
    beforeComment? .code (quote :: rest) =
      (beforeComment? (.literal quote false) rest).map (quote :: ·) := by
  have next : LiteralState.next .code quote = .literal quote false := by
    rw [LiteralState.next, if_pos (by simpa [isQuote] using opens)]
  have notSlash : quote ≠ '/' := ne_of_isQuote opens (by decide)
  rw [beforeComment?, if_neg (fun slashes => notSlash slashes.2.1), next]

theorem eq_slash_of_head? {token : LineToken}
    (isSlash : (token.chars ++ rest).head? = some '/') : token = .slash := by
  cases token with
  | code c isCode =>
      obtain rfl : c = '/' := Option.some.inj isSlash
      rfl
  | literal quote opens parts =>
      exact absurd (Option.some.inj isSlash) (ne_of_isQuote opens (by decide))

/-- A token is no part of a comment, unless it is a slash in front of another one. -/
theorem beforeComment?_token (token : LineToken)
    (apart : token = .slash → rest.head? ≠ some '/') :
    beforeComment? .code (token.chars ++ rest) =
      (beforeComment? .code rest).map (token.chars ++ ·) := by
  cases token with
  | code c isCode =>
      have notHere : ¬ (c = '/' ∧ rest.head? = some '/') := by
        rintro ⟨rfl, isSlash⟩
        exact apart rfl isSlash
      have next : LiteralState.next .code c = .code := by
        rw [LiteralState.next, if_neg (by simpa [isQuote] using isCode)]
      rw [LineToken.chars, List.singleton_append, beforeComment?,
        if_neg (fun slashes => notHere slashes.2), next]
      rfl
  | literal quote opens parts =>
      have notBackslash : quote ≠ '\\' := ne_of_isQuote opens (by decide)
      have closed : LiteralState.next (.literal quote false) quote = .code := by
        simp [LiteralState.next, notBackslash]
      rw [LineToken.chars, List.cons_append, List.append_assoc, beforeComment?_quote opens,
        beforeComment?_quotedParts, List.singleton_append, beforeComment?, if_neg (by simp),
        closed, Option.map_map, Option.map_map]
      congr 1
      funext before
      simp

/-- The search goes through tokens in which no comment starts. -/
theorem beforeComment?_tokens (noComment : ¬ Commented tokens)
    (apart : tokens.getLast? = some .slash → rest.head? ≠ some '/') :
    beforeComment? .code (tokens.flatMap LineToken.chars ++ rest) =
      (beforeComment? .code rest).map (tokens.flatMap LineToken.chars ++ ·) := by
  induction tokens with
  | nil => simp
  | cons token tokens ih =>
      have later := ih (fun inside => noComment (List.infix_cons inside)) fun last => apart (by
        rw [List.getLast?_cons, last, Option.getD_some])
      have apartHere : token = .slash →
          (tokens.flatMap LineToken.chars ++ rest).head? ≠ some '/' := by
        rintro rfl isSlash
        cases tokens with
        | nil => exact apart rfl isSlash
        | cons second tokens =>
            rw [List.flatMap_cons, List.append_assoc] at isSlash
            obtain rfl := eq_slash_of_head? isSlash
            exact noComment ⟨[], tokens, rfl⟩
      rw [List.flatMap_cons, List.append_assoc, beforeComment?_token token apartHere, later,
        Option.map_map]
      congr 1
      funext before
      exact (List.append_assoc _ _ _).symm

theorem beforeComment?_open (literal : Option OpenLiteral) :
    beforeComment? .code (openChars literal) = none := by
  cases literal with
  | none => rfl
  | some literal =>
      have ending : beforeComment? (.literal literal.quote false)
          (lastBackslash literal.backslash) = none := by
        cases literal.backslash <;> rfl
      show beforeComment? .code literal.chars = none
      rw [OpenLiteral.chars, beforeComment?_quote literal.opens, beforeComment?_quotedParts, ending]
      rfl

theorem beforeComment?_whole (noComment : ¬ Commented line.tokens) :
    beforeComment? .code line.chars = none := by
  rw [LexedLine.chars, beforeComment?_tokens noComment, beforeComment?_open]
  · rfl
  · intro _ isSlash
    cases isOpen : line.openLiteral with
    | none =>
        rw [isOpen] at isSlash
        cases isSlash
    | some literal =>
        rw [isOpen] at isSlash
        exact ne_of_isQuote literal.opens (by decide) (Option.some.inj isSlash)

theorem beforeComment?_cut (split : line.tokens = before ++ LineToken.slash :: .slash :: after)
    (first : ¬ Commented (before ++ [.slash])) :
    beforeComment? .code line.chars = some (before.flatMap LineToken.chars) := by
  have isText : line.chars = before.flatMap LineToken.chars ++
      '/' :: '/' :: (after.flatMap LineToken.chars ++ openChars line.openLiteral) := by
    simp [LexedLine.chars, split, LineToken.slash, LineToken.chars]
  rw [isText, beforeComment?_tokens, beforeComment?, if_pos ⟨rfl, rfl, rfl⟩, Option.map_some,
    List.append_nil]
  · exact mt (Commented.of_prefix (List.prefix_append _ _)) first
  · intro last
    rcases List.getLast?_eq_some_iff.mp last with ⟨front, rfl⟩
    exact absurd ⟨front, [], by simp⟩ first

/-! ## The line without its comment -/

/-- If two slashes stand side by side, there are first ones. -/
theorem Commented.exists_first (commented : Commented tokens) :
    ∃ before after, tokens = before ++ LineToken.slash :: .slash :: after ∧
      ¬ Commented (before ++ [.slash]) := by
  induction tokens with
  | nil => cases List.infix_nil.mp commented
  | cons token tokens ih =>
      by_cases starts : [LineToken.slash, .slash] <+: token :: tokens
      · rcases starts with ⟨after, split⟩
        refine ⟨[], after, split.symm, fun inside => ?_⟩
        have size := List.IsInfix.length_le inside
        simp at size
      · rcases ih ((List.infix_cons_iff.mp commented).resolve_left starts)
          with ⟨before, after, rfl, first⟩
        refine ⟨token :: before, after, rfl, fun inside => ?_⟩
        rcases List.infix_cons_iff.mp inside with here | later
        · exact starts (here.trans ⟨.slash :: after, by simp⟩)
        · exact first later

theorem stripLineComment_of_shows {text shown : String}
    (isLine : line.chars = text.toList) (shows : line.Shows shown.toList) :
    stripLineComment text = shown := by
  apply String.toList_injective
  rw [stripLineComment, ← isLine]
  generalize isShown : shown.toList = chars at shows
  cases shows with
  | whole noComment => rw [beforeComment?_whole noComment, isLine]
  | cut split first isText blank finish =>
      rw [beforeComment?_cut split first]
      dsimp only
      rw [String.toList_ofList, Text.dropEndWhile_eq_rdropWhile, isText,
        Text.rdropWhile_append_of_last _ finish, List.rdropWhile_eq_nil_iff.mpr blank,
        List.append_nil]

/-- Every line shows something. -/
theorem LexedLine.exists_shows (line : LexedLine) : ∃ shown, line.Shows shown := by
  by_cases commented : Commented line.tokens
  · rcases commented.exists_first with ⟨before, after, split, first⟩
    refine ⟨(before.flatMap LineToken.chars).rdropWhile isBlank, .cut split first
      List.rdropWhile_append_rtakeWhile.symm (fun _ => List.mem_rtakeWhile_imp) fun nonempty => ?_⟩
    simpa using List.rdropWhile_last_not isBlank _ nonempty
  · exact ⟨line.chars, .whole commented⟩

theorem stripLineComment_eq_iff {text : String} (isLine : line.chars = text.toList)
    (shown : String) :
    stripLineComment text = shown ↔ line.Shows shown.toList := by
  refine ⟨?_, stripLineComment_of_shows isLine⟩
  rintro rfl
  rcases line.exists_shows with ⟨shown, shows⟩
  rw [← @String.toList_ofList shown] at shows
  rwa [stripLineComment_of_shows isLine shows]

theorem isBlank_of_isQuote (opens : isQuote quote = true) : isBlank quote = false := by
  have isOne : quote = '"' ∨ quote = '\'' := by simpa [isQuote] using opens
  rcases isOne with rfl | rfl
  · decide
  · decide

/-- Blanks at the end of tokens are characters of code, so without them there are tokens left. -/
theorem exists_tokens_of_blank {shown blanks : List Char}
    (isText : tokens.flatMap LineToken.chars = shown ++ blanks)
    (blank : ∀ c ∈ blanks, isBlank c = true) :
    ∃ front, front <+: tokens ∧ front.flatMap LineToken.chars = shown := by
  induction blanks using List.reverseRecOn generalizing tokens with
  | nil => exact ⟨tokens, List.prefix_rfl, by rw [isText, List.append_nil]⟩
  | append_singleton blanks c ih =>
      have isBlankChar : isBlank c = true := blank c (by simp)
      cases tokens using List.reverseRecOn with
      | nil => simp at isText
      | append_singleton tokens token _ =>
          rw [List.flatMap_append, List.flatMap_singleton, ← List.append_assoc] at isText
          cases token with
          | code d isCode =>
              rw [LineToken.chars, List.append_singleton_inj] at isText
              rcases ih isText.1 (fun c member => blank c (by simp [member]))
                with ⟨front, isPrefix, isShown⟩
              exact ⟨front, isPrefix.trans (List.prefix_append _ _), isShown⟩
          | literal quote opens parts =>
              -- the text would end with the quote of the literal
              rw [LineToken.chars, ← List.cons_append, ← List.append_assoc,
                List.append_singleton_inj] at isText
              rw [← isText.2, isBlank_of_isQuote opens] at isBlankChar
              cases isBlankChar

/-- What a line shows has no comment left. -/
theorem stripLineComment_shown {shown : String} (shows : line.Shows shown.toList) :
    stripLineComment shown = shown := by
  generalize isShown : shown.toList = chars at shows
  cases shows with
  | whole noComment =>
      refine stripLineComment_of_shows isShown.symm ?_
      rw [isShown]
      exact .whole noComment
  | cut split first isText blank finish =>
      rcases exists_tokens_of_blank isText blank with ⟨front, isPrefix, isFront⟩
      have isLine : (⟨front, none⟩ : LexedLine).chars = shown.toList := by
        rw [LexedLine.chars, isFront, isShown]
        exact List.append_nil _
      refine stripLineComment_of_shows isLine ?_
      rw [← isLine]
      exact .whole (mt (Commented.of_prefix (isPrefix.trans (List.prefix_append _ _))) first)

/--
Every line is read in tokens in exactly one way.  Without its line comment it is
the whole line, if no two slashes stand side by side outside its literals, and
else the text in front of the first two without the blanks at its end.  What is
left has no comment that could be removed again.
-/
theorem stripLineComment_lexed (line : String) :
    ∃ lexed : LexedLine,
      (∀ other : LexedLine, other.chars = line.toList ↔ other = lexed) ∧
      (∀ shown : String, stripLineComment line = shown ↔ lexed.Shows shown.toList) ∧
      stripLineComment (stripLineComment line) = stripLineComment line := by
  rcases exists_lexedLine line.toList with ⟨lexed, isLine⟩
  have shows := stripLineComment_eq_iff isLine
  refine ⟨lexed, fun other => ?_, shows, stripLineComment_shown ((shows _).mp rfl)⟩
  rw [← isLine]
  exact LexedLine.chars_injective.eq_iff

/-- Slashes in a literal start no comment, also behind an escaped quote or one of the other kind. -/
example :
    stripLineComment "f(\"\\\"//\x27\", \x27/\x27) / \t// \"//" =
      "f(\"\\\"//\x27\", \x27/\x27) /" := by
  decide +kernel

end

end HeaderBindings.Header
