import HeaderBindings.Proofs.Header.DeclarationLine
import HeaderBindings.Proofs.Header.Effect
import HeaderBindings.Proofs.Header.FunctionText
import HeaderBindings.Proofs.Interface.HeaderOrder

/-!
# The layout of a declaration

A declaration may be broken at its blanks into several lines, each with an
indentation and a line comment of its own.  The lines after the first are read
again as lines of their own, where they say nothing, and the declaration is
joined from the lines up to the first at which it looks complete.  What is read
is what the declaration on one line says, as long as no other declaration and
no documentation comment goes on over the lines.
-/

namespace HeaderBindings.Header

open Preprocessor (Conditions Directive)
open Text (isBlank)

/-! ## Layouts -/

def Item.spelling : Item → String
  | .function => "NAPI"
  | .enumeration => "NAPI_ENUM"

/-- A declaration over several lines; its marker stands in front of the words of the first one. -/
structure Layout where
  item : Item
  first : DeclarationLine
  rest : List DeclarationLine
  unmarked : ∀ word ∈ first.words ++ rest.flatMap DeclarationLine.words,
    word ∉ markers.map Prod.fst

namespace Layout

/-- The words of the declaration. -/
def words (layout : Layout) : List String :=
  layout.first.words ++ layout.rest.flatMap DeclarationLine.words

def declaration (layout : Layout) : String :=
  Text.joinWith " " layout.words

/-- The first line with its marker. -/
def marked (layout : Layout) : DeclarationLine :=
  { layout.first with
    words := layout.item.spelling :: layout.first.words
    bare := by
      rw [List.all_cons, layout.first.bare]
      cases layout.item <;> decide
    nonempty := List.cons_ne_nil _ _ }

/-- The lines as they stand in a header. -/
def lines (layout : Layout) : List String :=
  (layout.marked :: layout.rest).map DeclarationLine.text

/-- The declaration on one line. -/
def oneLine (layout : Layout) : String :=
  layout.item.spelling ++ " " ++ layout.declaration

end Layout

/-- The words declare an item: in a function the first parenthesis follows the name and has its
partner, and in an enum the last word alone has a closing brace. -/
def Item.declaredBy (words : List String) : Item → Bool
  | .function =>
    parenFollowsName (Text.joinWith " " words) && argumentsClosed (Text.joinWith " " words)
  | .enumeration =>
    words.getLast?.any (Text.contains · "\x7d") &&
      words.dropLast.all fun word => !Text.contains word "\x7d"

/-! ## Joining -/

theorem joined_next {earlier : List String} (bare : earlier.all isBare = true)
    (line : DeclarationLine) :
    (if (Text.joinWith " " earlier).isEmpty then "" else Text.joinWith " " earlier ++ " ") ++
        line.code =
      Text.joinWith " " (earlier ++ line.words) := by
  by_cases first : earlier = []
  · subst first
    exact String.empty_append
  · have nonempty : (Text.joinWith " " earlier).isEmpty = false := by
      rw [← Bool.not_eq_true, String.isEmpty_iff]
      intro empty
      exact joinWith_nonempty bare first (by rw [empty]; rfl)
    rw [nonempty, if_neg Bool.false_ne_true, Text.joinWith_append first line.nonempty,
      String.append_assoc]
    rfl

/-- Joining the lines of a declaration stops within them, at words that are complete. -/
theorem joinUntil?_words
    {done : String → Bool} {earlier : List String} (bare : earlier.all isBare = true)
    (line : DeclarationLine) (rest : List DeclarationLine)
    (complete :
      done (Text.joinWith " " (earlier ++ line.words ++ rest.flatMap DeclarationLine.words)) = true)
    (below : List String) :
    ∃ part later, rest.flatMap DeclarationLine.words = part ++ later ∧
      done (Text.joinWith " " (earlier ++ line.words ++ part)) = true ∧
      joinUntil? done (Text.joinWith " " earlier)
          ((line :: rest).map DeclarationLine.trimmed ++ below) =
        some (Text.joinWith " " (earlier ++ line.words ++ part)) := by
  induction rest generalizing earlier line with
  | nil =>
      rw [List.flatMap_nil, List.append_nil] at complete
      refine ⟨[], [], rfl, by rwa [List.append_nil], ?_⟩
      rw [List.map_cons, List.cons_append, joinUntil?, line.stripLineComment_trimmed,
        joined_next bare, if_pos complete, List.append_nil]
  | cons next rest ih =>
      rw [List.map_cons, List.cons_append, joinUntil?, line.stripLineComment_trimmed,
        joined_next bare]
      by_cases stops : done (Text.joinWith " " (earlier ++ line.words)) = true
      · refine ⟨[], _, rfl, by rwa [List.append_nil], ?_⟩
        rw [if_pos stops, List.append_nil]
      · -- The words so far are not complete, so they come before those of the next line.
        have bareHere : (earlier ++ line.words).all isBare = true := by
          rw [List.all_append, bare, line.bare]
          rfl
        rw [List.flatMap_cons, ← List.append_assoc] at complete
        rcases ih bareHere next complete with ⟨part, later, split, stopped, joined⟩
        refine ⟨next.words ++ part, later, ?_, ?_, ?_⟩
        · rw [List.flatMap_cons, split, List.append_assoc]
        · rwa [← List.append_assoc]
        · rw [if_neg stops, joined, ← List.append_assoc]

/-! ## Reading -/

theorem markers_split (item : Item) :
    ∃ before after, markers = before ++ (item.spelling, item.marker) :: after ∧
      ∀ entry ∈ before, item.spelling ≠ entry.1 := by
  cases item with
  | function => exact ⟨markers.take 4, [], rfl, by decide⟩
  | enumeration => exact ⟨markers.take 3, markers.drop 4, rfl, by decide⟩

theorem readMarker_item (item : Item) (rest : String) :
    readMarker (item.spelling ++ (" " ++ rest)) = (some item.marker, Text.trimStart rest) := by
  have first : firstField (item.spelling ++ (" " ++ rest)) = item.spelling := by
    apply firstField_append
    · cases item <;> decide
    · rw [String.toList_append]
      rfl
  have own : afterMarker? (item.spelling ++ (" " ++ rest)) item.spelling =
      some (Text.trimStart rest) := by
    have found : Text.dropHead? (item.spelling ++ (" " ++ rest)) item.spelling =
        some (" " ++ rest) :=
      Text.dropHead?_eq_some_iff.mpr rfl
    have blank : isBlank ' ' = true := by decide
    rw [afterMarker?, found]
    simp [Text.trimStart, blank]
  rcases markers_split item with ⟨before, after, split, others⟩
  have found : markers.findSome? (fun entry =>
      (afterMarker? (item.spelling ++ (" " ++ rest)) entry.1).map fun rest =>
        (some entry.2, rest)) = some (some item.marker, Text.trimStart rest) := by
    rw [List.findSome?_eq_some_iff]
    refine ⟨before, (item.spelling, item.marker), after, split, ?_, ?_⟩
    · rw [own]
      rfl
    · intro entry inBefore
      have isMarker : entry.1 ∈ markers.map Prod.fst := by
        rw [split]
        exact List.mem_map_of_mem (List.mem_append_left _ inBefore)
      have different : firstField (item.spelling ++ (" " ++ rest)) ≠ entry.1 := by
        rw [first]
        exact others entry inBefore
      rw [afterMarker?_eq_none isMarker different]
      rfl
  rw [readMarker, found]
  rfl

theorem contains_brace {text : String} :
    Text.contains text "\x7d" = true ↔ '\x7d' ∈ text.toList := by
  rw [Text.contains, Text.isSome_cut?_iff]
  exact List.singleton_infix_iff _ _

/-- The braces of an enum are closed by its last word, so that the words are complete as a whole. -/
theorem later_eq_nil {part later : List String}
    (declared : Item.enumeration.declaredBy (part ++ later) = true)
    (complete :
      Text.contains (Text.joinWith " " (Item.enumeration.spelling :: part)) "\x7d" = true) :
    later = [] := by
  by_contra notLast
  rw [contains_brace] at complete
  simp only [Item.declaredBy, Bool.and_eq_true, List.all_eq_true, Bool.not_eq_true',
    List.dropLast_append_of_ne_nil notLast] at declared
  rcases Text.mem_joinWith complete with blank | ⟨word, member, brace⟩
  · exact absurd blank (by decide)
  · rcases List.mem_cons.mp member with rfl | inPart
    · exact absurd brace (by decide)
    · have free := declared.2 word (List.mem_append_left _ inPart)
      rw [contains_brace.mpr brace] at free
      cases free

/-- A declaration is read alike from the words up to which it is complete. -/
theorem Item.add_part {item : Item} {part later : List String}
    (declared : item.declaredBy (part ++ later) = true)
    (complete : item.isComplete (Text.joinWith " " (item.spelling :: part)) = true)
    (nonempty : part ≠ [])
    (replacements : List (String × String)) (docs : Docs) (owner : Class) :
    item.add replacements docs owner (Text.joinWith " " part) =
      item.add replacements docs owner (Text.joinWith " " (part ++ later)) := by
  cases item with
  | enumeration => rw [later_eq_nil declared complete, List.append_nil]
  | function =>
      by_cases whole : later = []
      · rw [whole, List.append_nil]
      · have longer : Text.joinWith " " (part ++ later) =
            Text.joinWith " " part ++ (" " ++ Text.joinWith " " later) :=
          Text.joinWith_append nonempty whole
        have closed : argumentsClosed (Text.joinWith " " part) = true := by
          rw [Item.isComplete, Text.joinWith_cons _ _ nonempty, ← String.append_assoc,
            argumentsClosed_append _ (by decide)] at complete
          exact complete
        rw [Item.declaredBy, longer, Bool.and_eq_true, parenFollowsName_append closed] at declared
        rw [longer, Item.add, Item.add, parseFunction_append owner replacements closed declared.1]

theorem Item.isComplete_of_declared {item : Item} {words : List String} (nonempty : words ≠ [])
    (declared : item.declaredBy words = true) :
    item.isComplete (Text.joinWith " " (item.spelling :: words)) = true := by
  cases item with
  | function =>
      rw [Item.declaredBy, Bool.and_eq_true] at declared
      rw [Item.isComplete, Text.joinWith_cons _ _ nonempty, ← String.append_assoc,
        argumentsClosed_append _ (by decide)]
      exact declared.2
  | enumeration =>
      rw [Item.declaredBy, Bool.and_eq_true] at declared
      cases last : words.getLast? with
      | none => exact absurd (List.getLast?_eq_none_iff.mp last) nonempty
      | some word =>
          rw [last] at declared
          exact Text.contains_trans
            (Text.contains_joinWith (List.mem_cons_of_mem _ (List.mem_of_getLast? last)))
            declared.1

namespace Layout

variable {layout other : Layout} {context : LineContext} {current : Option Class}

/-- The lines as they are scanned. -/
def trimmed (layout : Layout) : List String :=
  (layout.marked :: layout.rest).map DeclarationLine.trimmed

theorem words_bare (layout : Layout) : layout.words.all isBare = true := by
  rw [words, List.all_append, layout.first.bare, Bool.true_and, List.all_flatMap, List.all_eq_true]
  exact fun line _ => line.bare

theorem declaration?_eq {below : List String}
    (declared : layout.item.declaredBy layout.words = true)
    (line : context.line = layout.marked.trimmed)
    (rest : context.below = layout.rest.map DeclarationLine.trimmed ++ below) :
    ∃ part, context.declaration? layout.item.isComplete = some part ∧
      ∀ replacements docs owner, layout.item.add replacements docs owner part =
        layout.item.add replacements docs owner layout.declaration := by
  have complete := Item.isComplete_of_declared
    (List.append_ne_nil_of_left_ne_nil layout.first.nonempty _) declared
  rcases joinUntil?_words List.all_nil layout.marked layout.rest complete below with
    ⟨part, later, split, stopped, joined⟩
  have shown : layout.words = layout.first.words ++ part ++ later := by
    rw [words, split, List.append_assoc]
  have nonempty : layout.first.words ++ part ≠ [] :=
    List.append_ne_nil_of_left_ne_nil layout.first.nonempty _
  have read :
      readMarker (Text.joinWith " " (layout.item.spelling :: (layout.first.words ++ part))) =
        (some layout.item.marker, Text.joinWith " " (layout.first.words ++ part)) := by
    have bare := layout.words_bare
    rw [shown, List.all_append, Bool.and_eq_true] at bare
    rw [Text.joinWith_cons _ _ nonempty, readMarker_item, (trimmed_joinWith bare.1).trimStart_eq]
  refine ⟨Text.joinWith " " (layout.first.words ++ part), ?_, ?_⟩
  · rw [LineContext.declaration?, line, rest]
    refine (congrArg _ joined).trans ?_
    exact congrArg (fun reading => some reading.2) read
  · intro replacements docs owner
    rw [declaration, shown]
    rw [shown] at declared
    exact Item.add_part declared stopped nonempty replacements docs owner

theorem readMarker_marked (layout : Layout) :
    (readMarker layout.marked.trimmed).1 = some layout.item.marker := by
  rcases layout.marked.trimmed_eq with ⟨tail, split, _⟩
  have code : layout.marked.code =
      layout.item.spelling ++ (" " ++ Text.joinWith " " layout.first.words) :=
    Text.joinWith_cons _ _ layout.first.nonempty
  rw [split, code, String.append_assoc, String.append_assoc, readMarker_item]

theorem rest_unmarked (layout : Layout) :
    ∀ line ∈ layout.rest, ∀ word ∈ line.words, word ∉ markers.map Prod.fst := by
  intro line isLine word isWord
  apply layout.unmarked word
  exact List.mem_append_right _ (List.mem_flatMap.mpr ⟨line, isLine, isWord⟩)

/-- What the declaration means for the class that is open. -/
def effect (layout : Layout) (replacements : List (String × String)) (docs : Docs) :
    Option Class → Option (List Class × Option Class)
  | none => some ([], none)
  | some owner =>
    (layout.item.add replacements docs owner layout.declaration).map
      fun extended => ([], some extended)

theorem effect_marked (context : LineContext) (current : Option Class) {below : List String}
    (declared : layout.item.declaredBy layout.words = true)
    (line : context.line = layout.marked.trimmed)
    (rest : context.below = layout.rest.map DeclarationLine.trimmed ++ below) :
    context.effect current = layout.effect context.options.replacements context.docs.1 current := by
  rcases declaration?_eq declared line rest with ⟨part, isDeclaration, alike⟩
  rw [LineContext.effect_item layout.item (by rw [line, layout.readMarker_marked]), isDeclaration]
  cases current with
  | none => rfl
  | some owner =>
      dsimp only
      rw [Option.bind_some, alike, effect]

end Layout

/-! ## Scanning -/

section Scanning

variable {options : Options} {header : String} {conditions : Conditions}
variable {current : Option Class} {above below : List String}

/-- Below a line of a declaration, the other lines without markers say nothing. -/
theorem outcome_scanLines_rest
    {lines : List DeclarationLine}
    (unmarked : ∀ line ∈ lines, ∀ word ∈ line.words, word ∉ markers.map Prod.fst)
    (previous : DeclarationLine) :
    (scanLines options header (previous.trimmed :: above) conditions current
        (lines.map DeclarationLine.trimmed ++ below)).outcome =
      (scanLines options header
        ((lines.map DeclarationLine.trimmed).reverse ++ previous.trimmed :: above)
        conditions current below).outcome := by
  induction lines generalizing previous above with
  | nil => rfl
  | cons line rest ih =>
      have onwards := @ih (previous.trimmed :: above)
        (fun later member => unmarked later (List.mem_cons_of_mem _ member)) line
      rw [List.map_cons, List.reverse_cons, List.append_assoc, List.cons_append]
      cases live : conditions.admits (Directive.ofLine line.trimmed) with
      | true =>
          rw [outcome_scanLines_live live, LineContext.effect_plain]
          · rw [line.directive_trimmed]
            exact onwards
          · rw [line.readMarker_trimmed (unmarked line List.mem_cons_self)]
          · intro lines
            rw [LineContext.docs, docsAbove_bare _ _ previous.bare_firstField]
            intro documented
            cases documented
      | false =>
          rw [outcome_scanLines_inactive live, line.directive_trimmed]
          exact onwards

theorem docsAbove_fst (number other : Nat) (above : List String) :
    (docsAbove number above).1 = (docsAbove other above).1 := by
  cases above with
  | nil => rfl
  | cons nearest earlier =>
      rw [docsAbove, docsAbove]
      dsimp only
      split
      · rfl
      · split
        · split <;> rfl
        · rfl

theorem outcome_scanLines_layout
    {layout : Layout} (declared : layout.item.declaredBy layout.words = true) :
    (scanLines options header above conditions current (layout.trimmed ++ below)).outcome =
      if conditions.isLive then
        match layout.effect options.replacements (docsAbove 0 above).1 current with
        | none => ([], true)
        | some (completed, next) =>
          let onwards :=
            scanLines options header (layout.trimmed.reverse ++ above) conditions next below
          (completed ++ onwards.outcome.1, onwards.outcome.2)
      else
        (scanLines options header (layout.trimmed.reverse ++ above) conditions current
          below).outcome := by
  have code := layout.marked.directive_trimmed
  have onwards (next : Option Class) :
      (scanLines options header (layout.marked.trimmed :: above) conditions next
          (layout.rest.map DeclarationLine.trimmed ++ below)).outcome =
        (scanLines options header (layout.trimmed.reverse ++ above) conditions next
          below).outcome := by
    rw [Layout.trimmed, List.map_cons, List.reverse_cons, List.append_assoc]
    exact outcome_scanLines_rest layout.rest_unmarked layout.marked
  have admitted :
      conditions.admits (Directive.ofLine layout.marked.trimmed) = conditions.isLive := by
    rw [code]
    rfl
  rw [Layout.trimmed, List.map_cons, List.cons_append]
  cases live : conditions.isLive with
  | true =>
      have sameEffect := Layout.effect_marked
        ⟨options, header, above.length + 1, above, layout.marked.trimmed,
          layout.rest.map DeclarationLine.trimmed ++ below⟩ current declared rfl rfl
      rw [LineContext.docs, docsAbove_fst _ 0] at sameEffect
      rw [outcome_scanLines_live (admitted.trans live), sameEffect, code, if_pos rfl]
      cases layout.effect options.replacements (docsAbove 0 above).1 current with
      | none => rfl
      | some result =>
          exact congrArg (fun outcome => (result.1 ++ outcome.1, outcome.2)) (onwards result.2)
  | false =>
      rw [outcome_scanLines_inactive (admitted.trans live), code, if_neg Bool.false_ne_true]
      exact onwards current

theorem docsAbove_unopened (number : Nat) {earlier : List String} (unopened : "/**" ∉ earlier) :
    (docsAbove number ("*/" :: earlier)).1 = .absent := by
  have noReference : Text.dropHead? "*/" "// #docs_func " = none := by decide
  rw [docsAbove, noReference]
  simp [unopened]

/-- Lines that start with bare words, as the lines of a declaration do. -/
structure BareLines (lines : List String) : Prop where
  nonempty : lines ≠ []
  bare : ∀ line ∈ lines, isBare (firstField line) = true

namespace BareLines

variable {inner other between : List String}

theorem noStart (bareLines : BareLines inner) : "/**" ∉ inner :=
  fun member => (ne_delimiter_of_bare (bareLines.bare _ member)).2 rfl

theorem docsAbove_eq (bareLines : BareLines inner) (number : Nat) (above : List String) :
    docsAbove number (inner.reverse ++ above) = (.absent, []) := by
  rcases List.eq_nil_or_concat inner with empty | ⟨front, last, rfl⟩
  · exact absurd empty bareLines.nonempty
  · rw [List.concat_eq_append, List.reverse_concat, List.cons_append]
    exact docsAbove_bare number _ (bareLines.bare last (by simp))

/-- Bare lines have no part in documentation that starts below them or nowhere. -/
theorem docsAbove_fst_eq (bareLines : BareLines inner) (otherLines : BareLines other)
    (number otherNumber : Nat)
    (starts : between.getLast? = some "*/" → "/**" ∈ above → "/**" ∈ between.dropLast) :
    (docsAbove number (between.reverse ++ (inner.reverse ++ above.reverse))).1 =
      (docsAbove otherNumber (between.reverse ++ (other.reverse ++ above.reverse))).1 := by
  rw [docsAbove_fst otherNumber number]
  rcases List.eq_nil_or_concat between with rfl | ⟨front, closing, rfl⟩
  · rw [List.reverse_nil, List.nil_append, List.nil_append, bareLines.docsAbove_eq,
      otherLines.docsAbove_eq]
  · rw [List.concat_eq_append, List.getLast?_concat, List.dropLast_concat] at starts
    rw [List.concat_eq_append, List.reverse_concat, List.cons_append, List.cons_append]
    by_cases unopened : closing = "*/" ∧ "/**" ∉ front
    · -- No opening delimiter stands below the lines, so none stands above them either.
      rcases unopened with ⟨rfl, notBetween⟩
      have notAbove : "/**" ∉ above := fun member => notBetween (starts rfl member)
      rw [docsAbove_unopened, docsAbove_unopened]
      · simp [notBetween, notAbove, otherLines.noStart]
      · simp [notBetween, notAbove, bareLines.noStart]
    · apply congrArg
      apply docsAbove_congr
      intro closes
      by_contra notBetween
      exact unopened ⟨closes, by simpa using notBetween⟩

end BareLines

end Scanning

/--
A declaration between the lines `above` and `below` stands alone: every
declaration above is complete above, and a documentation comment that counts
below does not start above.
-/
structure StandsAlone (start : Conditions) (above below : List String) : Prop where
  complete : Untouched start above []
  docs :
    ∀ (i : Nat) (inside : i < below.length),
      (start.after (above ++ below.take i)).admits (Directive.ofLine below[i]) = true →
      takesDocs (classOpen start (above ++ below.take i)) below[i] = true →
      (below.take i).getLast? = some "*/" → "/**" ∈ above → "/**" ∈ (below.take i).dropLast

instance (start : Conditions) (above below : List String) :
    Decidable (StandsAlone start above below) :=
  decidable_of_iff (_ ∧ _)
    ⟨fun both => ⟨both.1, both.2⟩, fun alone => ⟨alone.complete, alone.docs⟩⟩

theorem StandsAlone.starts
    {start : Conditions} {above below between later : List String} {documented : String}
    (alone : StandsAlone start above below)
    (split : below = between ++ documented :: later)
    (live : (start.after (above ++ between)).admits (Directive.ofLine documented) = true)
    (takes : takesDocs (classOpen start (above ++ between)) documented = true)
    (closed : between.getLast? = some "*/") (isAbove : "/**" ∈ above) :
    "/**" ∈ between.dropLast := by
  have inside : between.length < below.length := by simp [split]
  have starts := alone.docs between.length inside
  simp only [split, List.take_left, List.getElem_append_right (Nat.le_refl _), Nat.sub_self,
    List.getElem_cons_zero] at starts
  exact starts live takes closed isAbove

section TwoLayouts

variable {options : Options} {header : String} {start : Conditions}
variable {above below : List String}

/-- Below a declaration that stands alone, its lines make no difference. -/
theorem outcome_scanLines_below
    (alone : StandsAlone start above below)
    {inner other : List String} (innerLines : BareLines inner) (otherLines : BareLines other)
    {rest between : List String} {current : Option Class}
    (split : below = between ++ rest)
    (isOpen : current.isSome = classOpen start (above ++ between)) :
    (scanLines options header (between.reverse ++ (inner.reverse ++ above.reverse))
        (start.after (above ++ between)) current rest).outcome =
      (scanLines options header (between.reverse ++ (other.reverse ++ above.reverse))
        (start.after (above ++ between)) current rest).outcome := by
  induction rest generalizing between current with
  | nil => rfl
  | cons line later ih =>
      apply outcome_scanLines_cons
      · intro live
        refine LineContext.effect_congr rfl rfl ?_ fun _ _ => rfl
        intro takes
        rw [isOpen] at takes
        exact innerLines.docsAbove_fst_eq otherLines _ _ (alone.starts split live takes)
      · intro next nextOpen
        have splitLater : below = (between ++ [line]) ++ later := by simp [split]
        have openLater : next.isSome = classOpen start (above ++ (between ++ [line])) := by
          rw [← List.append_assoc, classOpen_concat, nextOpen, isOpen]
        have continued := ih splitLater openLater
        rw [← List.append_assoc above, Conditions.after_concat, List.reverse_concat] at continued
        exact continued

namespace Layout

variable {layout other : Layout}

theorem bareLines (layout : Layout) : BareLines layout.trimmed where
  nonempty := List.cons_ne_nil _ _
  bare := by
    intro line isLine
    rcases List.mem_map.mp isLine with ⟨shown, _, rfl⟩
    exact shown.bare_firstField

/-- Two layouts of the same declaration. -/
structure Same (layout other : Layout) : Prop where
  item : layout.item = other.item
  words : layout.words = other.words

theorem Same.effect_eq (same : layout.Same other) : layout.effect = other.effect := by
  funext replacements docs current
  cases current with
  | none => rfl
  | some owner => rw [effect, effect, declaration, declaration, same.item, same.words]

theorem isSome_of_effect {replacements : List (String × String)} {docs : Docs}
    {current next : Option Class} {completed : List Class}
    (effect : layout.effect replacements docs current = some (completed, next)) :
    next.isSome = current.isSome := by
  cases current with
  | none =>
      cases effect
      rfl
  | some owner =>
      rcases Option.map_eq_some_iff.mp effect with ⟨extended, _, equal⟩
      cases equal
      rfl

end Layout

section

variable {layout other : Layout} (same : layout.Same other)
variable (declared : layout.item.declaredBy layout.words = true)
variable (alone : StandsAlone start above below)

include same declared alone

/-- From a declaration on, its layout has no influence. -/
theorem outcome_scanLines_onwards
    {current : Option Class} (isOpen : current.isSome = classOpen start above) :
    (scanLines options header above.reverse (start.after above) current
        (layout.trimmed ++ below)).outcome =
      (scanLines options header above.reverse (start.after above) current
        (other.trimmed ++ below)).outcome := by
  have otherDeclared : other.item.declaredBy other.words = true := by
    rw [← same.item, ← same.words]
    exact declared
  have later (next : Option Class) (nextOpen : next.isSome = current.isSome) :
      (scanLines options header (layout.trimmed.reverse ++ above.reverse) (start.after above)
          next below).outcome =
        (scanLines options header (other.trimmed.reverse ++ above.reverse) (start.after above)
          next below).outcome := by
    have continued := @outcome_scanLines_below options header start above below alone
      layout.trimmed other.trimmed layout.bareLines other.bareLines below [] next
      (List.nil_append below).symm (by rw [List.append_nil, nextOpen, isOpen])
    rwa [List.append_nil] at continued
  rw [outcome_scanLines_layout declared, outcome_scanLines_layout otherDeclared, same.effect_eq,
    later current rfl]
  cases effect : other.effect options.replacements (docsAbove 0 above.reverse).1 current with
  | none => rfl
  | some result =>
      dsimp only
      rw [later result.2 (Layout.isSome_of_effect effect)]

/-- Above a declaration, `rest` being the lines still to be scanned, its layout has no influence. -/
theorem outcome_scanLines_same
    {rest earlier : List String} {current : Option Class}
    (split : above = earlier ++ rest)
    (isOpen : current.isSome = classOpen start earlier) :
    (scanLines options header earlier.reverse (start.after earlier) current
        (rest ++ (layout.trimmed ++ below))).outcome =
      (scanLines options header earlier.reverse (start.after earlier) current
        (rest ++ (other.trimmed ++ below))).outcome := by
  induction rest generalizing earlier current with
  | nil =>
      rw [List.append_nil] at split
      subst split
      exact outcome_scanLines_onwards same declared alone isOpen
  | cons line rest ih =>
      rw [List.cons_append, List.cons_append]
      apply outcome_scanLines_cons
      · intro live
        refine LineContext.effect_congr rfl rfl ?_ ?_
        · intro takes
          rw [LineContext.docs, LineContext.docs]
        · intro done declares
          rw [isOpen] at declares
          rcases alone.complete.complete split live declares with ⟨text, joined⟩
          have both (more : List String) :
              joinUntil? done "" (line :: (rest ++ more)) = some text :=
            joinUntil?_append joined more
          rw [LineContext.declaration?, LineContext.declaration?]
          dsimp only
          rw [both, both]
      · intro next nextOpen
        have splitLater : above = (earlier ++ [line]) ++ rest := by simp [split]
        have openLater : next.isSome = classOpen start (earlier ++ [line]) := by
          rw [classOpen_concat, nextOpen, isOpen]
        have continued := ih splitLater openLater
        rw [Conditions.after_concat, List.reverse_concat] at continued
        exact continued

end

theorem outcome_scan_same
    {layout other : Layout} (same : layout.Same other)
    (declared : layout.item.declaredBy layout.words = true)
    {source otherSource : String}
    (lines : Text.splitLines source = above ++ layout.lines ++ below)
    (otherLines : Text.splitLines otherSource = above ++ other.lines ++ below)
    (alone : StandsAlone (Conditions.ofDefinitions options.definitions)
      (above.map Text.trim) (below.map Text.trim)) :
    (scan options header source).outcome = (scan options header otherSource).outcome := by
  have trimmed {layout : Layout} {source : String}
      (lines : Text.splitLines source = above ++ layout.lines ++ below) :
      Text.trimmedLines source =
        above.map Text.trim ++ (layout.trimmed ++ below.map Text.trim) := by
    rw [Text.trimmedLines, lines, List.map_append, List.map_append, List.append_assoc, Layout.lines,
      List.map_map]
    rfl
  rw [scan, scan, trimmed lines, trimmed otherLines]
  exact outcome_scanLines_same same declared alone (List.nil_append _).symm rfl

end TwoLayouts

/-- The layout without breaks, indentation and comments. -/
def Layout.flat (layout : Layout) : Layout where
  item := layout.item
  first :=
    { indent := ""
      words := layout.words
      blank := rfl
      bare := layout.words_bare
      nonempty := List.append_ne_nil_of_left_ne_nil layout.first.nonempty _ }
  rest := []
  unmarked := by
    rw [List.flatMap_nil, List.append_nil]
    exact layout.unmarked

theorem Layout.same_flat (layout : Layout) : layout.Same layout.flat where
  item := rfl
  words := by simp [words, flat]

theorem Layout.lines_flat (layout : Layout) : layout.flat.lines = [layout.oneLine] := by
  have code : layout.flat.marked.code = layout.oneLine := by
    rw [oneLine, declaration, String.append_assoc]
    exact Text.joinWith_cons _ _ layout.flat.first.nonempty
  show ["" ++ (layout.flat.marked.code ++ "")] = _
  rw [code, String.empty_append, String.append_empty]

end HeaderBindings.Header

namespace HeaderBindings

open Preprocessor (Conditions)

/--
A declaration that stands alone can be broken at its blanks into several lines,
each with an indentation and a line comment, without influence on what is
extracted.
-/
theorem extract_layout
    (options : Header.Options) (first rest : List HeaderSource)
    (header source other : String) (above below : List String) (layout : Header.Layout)
    (lines : Text.splitLines source = above ++ layout.lines ++ below)
    (otherLines : Text.splitLines other = above ++ layout.oneLine :: below)
    (declared : layout.item.declaredBy layout.words = true)
    (alone : Header.StandsAlone (Conditions.ofDefinitions options.definitions)
      (above.map Text.trim) (below.map Text.trim)) :
    (Header.scan options header source).outcome = (Header.scan options header other).outcome ∧
      (extract options (first ++ ⟨header, source⟩ :: rest)).result.toOption =
        (extract options (first ++ ⟨header, other⟩ :: rest)).result.toOption := by
  have flatLines : Text.splitLines other = above ++ layout.flat.lines ++ below := by
    rw [otherLines, layout.lines_flat, List.append_assoc, List.singleton_append]
  have same : (Header.scan options header source).outcome =
      (Header.scan options header other).outcome :=
    Header.outcome_scan_same layout.same_flat declared lines flatLines alone
  refine ⟨same, extract_congr ?_ ?_⟩
  · have fails : HeaderSource.fails options ⟨header, source⟩ =
        HeaderSource.fails options ⟨header, other⟩ := congrArg Prod.snd same
    rw [List.any_append, List.any_append, List.any_cons, List.any_cons, fails]
  · have classes : HeaderSource.classes options ⟨header, source⟩ =
        HeaderSource.classes options ⟨header, other⟩ := congrArg Prod.fst same
    rw [List.flatMap_append, List.flatMap_append, List.flatMap_cons, List.flatMap_cons, classes]

/-- A function over three lines, with comments that hold brackets, quotes and a marker. -/
def brokenFunction : Header.Layout where
  item := .function
  first :=
    { indent := "  ", words := ["void", "f(int", "a,"], comment := some "the first ) one"
      blank := by decide, bare := by decide, nonempty := by decide }
  rest := [
    { indent := "\t", words := ["int", "b", "=", "(2))"]
      blank := by decide, bare := by decide, nonempty := by decide },
    { indent := "", words := ["const;"], comment := some "\x7d \" NAPI_ENUM"
      blank := by decide, bare := by decide, nonempty := by decide }]
  unmarked := by decide

/-- A header with documented functions, of which one is given. -/
def documentedHeader (lines : List String) : String :=
  Text.joinLines (["NAPI_CLASS class A \x7b", "/**", "Docs of f.", "*/"] ++ lines ++
    ["/**", "Docs of g.", "*/", "NAPI void g();", "\x7d;"])

theorem brokenFunction_read :
    (Header.scan {} "a.h" (documentedHeader brokenFunction.lines)).outcome =
        (Header.scan {} "a.h" (documentedHeader [brokenFunction.oneLine])).outcome ∧
      (extract {} [⟨"a.h", documentedHeader brokenFunction.lines⟩]).result.toOption =
        (extract {} [⟨"a.h", documentedHeader [brokenFunction.oneLine]⟩]).result.toOption :=
  extract_layout {} [] [] "a.h" _ _
    ["NAPI_CLASS class A \x7b", "/**", "Docs of f.", "*/"]
    ["/**", "Docs of g.", "*/", "NAPI void g();", "\x7d;"]
    brokenFunction (by decide +kernel) (by decide +kernel) (by decide +kernel) (by decide +kernel)

/-- A function over two lines between a documentation comment whose end is not noticed and a
comment that is none. -/
def undelimitedFunction : Header.Layout where
  item := .function
  first :=
    { indent := "", words := ["void", "f(int", "a,"]
      blank := by decide, bare := by decide, nonempty := by decide }
  rest := [
    { indent := "", words := ["int", "b);"]
      blank := by decide, bare := by decide, nonempty := by decide }]
  unmarked := by decide

def undelimitedHeader (lines : List String) : String :=
  Text.joinLines (["NAPI_CLASS class A \x7b", "/**", " * Docs of f. */"] ++ lines ++
    ["/* Note on g.", "*/", "NAPI void g();", "\x7d;"])

/-- The documentation of the functions of each class that a header declares. -/
def extractedDocs (source : String) : Option (List (List (List String))) :=
  (extract {} [⟨"a.h", source⟩]).result.toOption.map fun api =>
    api.classes.map fun c => c.functions.map Function.docs

/-- The lines of a declaration can become documentation of another one. -/
theorem layout_not_always_free :
    ¬ ∀ (options : Header.Options) (header source other : String) (above below : List String)
      (layout : Header.Layout),
      Text.splitLines source = above ++ layout.lines ++ below →
      Text.splitLines other = above ++ layout.oneLine :: below →
      layout.item.declaredBy layout.words = true →
      (extract options [⟨header, source⟩]).result.toOption =
        (extract options [⟨header, other⟩]).result.toOption := by
  intro always
  have same := always {} "a.h" (undelimitedHeader undelimitedFunction.lines)
    (undelimitedHeader [undelimitedFunction.oneLine])
    ["NAPI_CLASS class A \x7b", "/**", " * Docs of f. */"]
    ["/* Note on g.", "*/", "NAPI void g();", "\x7d;"]
    undelimitedFunction (by decide +kernel) (by decide +kernel) (by decide +kernel)
  have broken : extractedDocs (undelimitedHeader undelimitedFunction.lines) =
      some [[[], ["Docs of f. */", "NAPI void f(int a,", "int b);", "/* Note on g."]]] := by
    decide +kernel
  have whole : extractedDocs (undelimitedHeader [undelimitedFunction.oneLine]) =
      some [[[], ["Docs of f. */", "NAPI void f(int a, int b);", "/* Note on g."]]] := by
    decide +kernel
  rw [extractedDocs, same, ← extractedDocs, whole] at broken
  exact absurd broken (by decide)

end HeaderBindings
