import HeaderBindings.Binding.Managed.Expression
import HeaderBindings.Proofs.Text.Pascal
import HeaderBindings.Proofs.Text.Segmentation
import HeaderBindings.Proofs.Text.Slice

/-!
# The names in an expression

An expression is rewritten in passes over the whole text: `godot::` is left out, `::` is written as
a point, engine types and the constants behind a point get their C# names, and called types get a
`new`.  The passes between the first and the last one rewrite the segments of the text, each within
its class.  So what the last pass sees are the segments of the expression without `godot::`: a gap
has points for its `::`, and a word has the C# name that follows from what stands in front of it.
-/

namespace HeaderBindings.Managed

open Text (Segment Occurrence Alternating segments flatten isWord)

/-! ## The engine's namespace -/

/-- The name of the engine's namespace. -/
def engine : List Char :=
  "godot".toList

/-- Whether a word is the engine's namespace, which qualifies what stands behind its `::`. -/
def isNamespace (word : List Char) (rest : List Segment) : Bool :=
  word == engine && [':', ':'].isPrefixOf (flatten rest)

/-- An expression without the engine's namespace; `drops` tells that the `::` of a namespace comes
next. -/
def withoutEngine (drops : Bool) : List Segment → List Char
  | [] => []
  | .gap gap :: rest => (if drops then gap.drop 2 else gap) ++ withoutEngine false rest
  | .word word :: rest =>
    if isNamespace word rest then withoutEngine true rest else word ++ withoutEngine false rest

/-- Whether every `godot::` of an expression starts at a whole word. -/
def EngineIsWhole (words : List Occurrence) : Prop :=
  ∀ word ∈ words, engine <:+ word.word → [':', ':'] <+: word.after → word.word = engine

instance (words : List Occurrence) : Decidable (EngineIsWhole words) :=
  inferInstanceAs (Decidable (∀ word ∈ words,
    engine <:+ word.word → [':', ':'] <+: word.after → word.word = engine))

/-- An expression without any `godot::`. -/
def unqualified (text : String) : List Char :=
  (Text.replaceAll text "godot::" "").toList

section Engine

variable {before word gap : List Char} {parts rest : List Segment}

theorem replaceFrom_gap (uniform : ∀ c ∈ gap, isWord c = false) (back : List Char) :
    Text.replaceFrom (engine ++ [':', ':']) [] 0 (gap ++ back) =
      gap ++ Text.replaceFrom (engine ++ [':', ':']) [] 0 back := by
  refine Text.replaceFrom_append back fun inner nonempty suffix => ?_
  rcases inner with _ | ⟨c, inner⟩
  · exact absurd rfl nonempty
  · intro isPrefix
    have isFirst := (List.cons_prefix_cons.mp isPrefix).1
    have notWord := uniform c (suffix.subset List.mem_cons_self)
    rw [← isFirst] at notWord
    exact absurd notWord (by decide)

/-- A match of `godot::` that starts in a word starts with the last letters of it. -/
theorem eq_engine_of_match {inner back : List Char} (isWords : ∀ c ∈ inner, isWord c = true)
    (ends : back.head?.any isWord = false) (isPrefix : engine ++ [':', ':'] <+: inner ++ back) :
    inner = engine ∧ [':', ':'] <+: back := by
  obtain ⟨rest, split⟩ := isPrefix
  have stops : back.takeWhile isWord = [] := by
    cases back with
    | nil => rfl
    | cons c back => exact List.takeWhile_cons_of_neg (by simpa using ends)
  have taken := congrArg (List.takeWhile isWord) split
  rw [List.takeWhile_append_of_pos isWords, stops, List.append_nil, List.append_assoc,
    List.takeWhile_append_of_pos (List.all_eq_true.mp (by decide +kernel))] at taken
  have same : inner = engine := by
    rw [← taken]
    rfl
  rw [same, List.append_assoc, List.append_cancel_left_eq] at split
  exact ⟨same, rest, split⟩

/-- A word that is not the namespace is kept. -/
theorem replaceFrom_word (alternating : Alternating (.word word :: rest))
    (other : isNamespace word rest = false)
    (whole : engine <:+ word → [':', ':'] <+: flatten rest → word = engine) :
    Text.replaceFrom (engine ++ [':', ':']) [] 0 (word ++ flatten rest) =
      word ++ Text.replaceFrom (engine ++ [':', ':']) [] 0 (flatten rest) := by
  refine Text.replaceFrom_append _ fun inner nonempty suffix isPrefix => ?_
  have isWords : ∀ c ∈ inner, isWord c = true := fun c member =>
    (Segment.isRun_word.mp alternating.isRun).2 c (suffix.subset member)
  rcases eq_engine_of_match isWords alternating.head?_after_word isPrefix with ⟨rfl, follows⟩
  rw [isNamespace, whole suffix follows, List.isPrefixOf_iff_prefix.mpr follows] at other
  cases other

theorem exists_gap_of_colons (alternating : Alternating (.word word :: rest))
    (follows : [':', ':'] <+: flatten rest) :
    ∃ gap later, rest = .gap (':' :: ':' :: gap) :: later := by
  rcases rest with _ | ⟨next | run, rest⟩
  · cases List.prefix_nil.mp follows
  · exact absurd rfl (alternating.apart (.word next) rfl)
  · rcases run with _ | ⟨c, _ | ⟨d, gap⟩⟩
    · exact absurd rfl alternating.tail.isRun.nonempty
    · rcases List.cons_prefix_cons.mp follows with ⟨_, second⟩
      obtain ⟨more, split⟩ := second
      have isNext : ':' ∈ (flatten rest).head? := by
        rw [show flatten rest = [':'] ++ more from split.symm]
        rfl
      exact absurd (alternating.tail.head?_after_gap ':' isNext) (by decide)
    · rcases List.cons_prefix_cons.mp follows with ⟨rfl, second⟩
      rcases List.cons_prefix_cons.mp second with ⟨rfl, _⟩
      exact ⟨gap, rest, rfl⟩

/-- The namespace and the `::` behind it are left out. -/
theorem replaceFrom_namespace (isRun : (Segment.gap (':' :: ':' :: gap)).IsRun) (back : List Char) :
    Text.replaceFrom (engine ++ [':', ':']) [] 0 (engine ++ (':' :: ':' :: gap ++ back)) =
      gap ++ Text.replaceFrom (engine ++ [':', ':']) [] 0 back := by
  have isGap : ∀ c ∈ gap, isWord c = false := fun c member =>
    (Segment.isRun_gap.mp isRun).2 c (List.mem_cons_of_mem _ (List.mem_cons_of_mem _ member))
  have nonempty : engine ++ [':', ':'] ≠ [] := by simp
  have matched := Text.replaceFrom_match nonempty [] (gap ++ back)
  rwa [List.append_assoc, List.nil_append, replaceFrom_gap isGap] at matched

/-- The first pass, segment by segment. -/
theorem replaceFrom_engine (alternating : Alternating parts)
    (whole : EngineIsWhole (Text.occurrencesAfter before parts)) :
    Text.replaceFrom (engine ++ [':', ':']) [] 0 (flatten parts) = withoutEngine false parts := by
  induction alternating generalizing before with
  | nil => rfl
  | @cons first rest isRun apart later ih =>
      have alternating := Alternating.cons isRun apart later
      cases first with
      | gap gap =>
          rw [Text.flatten_cons, Segment.chars_gap,
            replaceFrom_gap (Segment.isRun_gap.mp isRun).2, ih whole]
          rfl
      | word word =>
          rcases List.forall_mem_cons.mp whole with ⟨here, others⟩
          have behind := ih others
          rw [withoutEngine, Text.flatten_cons, Segment.chars_word]
          split
          · rename_i isEngine
            rw [isNamespace, Bool.and_eq_true, beq_iff_eq, List.isPrefixOf_iff_prefix] at isEngine
            rcases isEngine with ⟨rfl, follows⟩
            rcases exists_gap_of_colons alternating follows with ⟨gap, rest, rfl⟩
            have isGap := alternating.tail.isRun
            -- the induction hypothesis is about the gap with its `::`
            rw [Text.flatten_cons, Segment.chars_gap,
              replaceFrom_gap (Segment.isRun_gap.mp isGap).2, withoutEngine,
              if_neg Bool.false_ne_true, List.append_cancel_left_eq] at behind
            rw [Text.flatten_cons, Segment.chars_gap, replaceFrom_namespace isGap, behind]
            rfl
          · rename_i other
            rw [replaceFrom_word alternating (by simpa using other) here, behind]

/-- What is left of an expression whose every `godot::` starts at a whole word. -/
theorem unqualified_eq {text : String} (whole : EngineIsWhole (Text.occurrences text.toList)) :
    unqualified text = withoutEngine false (segments text.toList) := by
  rw [unqualified, Text.replaceAll, String.toList_ofList,
    ← replaceFrom_engine (Text.alternating_segments text.toList) whole, Text.flatten_segments]
  rfl

end Engine

/-! ## Points -/

/-- A text with a point for every `::`, the colons being read in pairs from the left. -/
def points : List Char → List Char
  | ':' :: ':' :: rest => '.' :: points rest
  | c :: rest => c :: points rest
  | [] => []

/-- How many colons a text ends in. -/
def trailingColons (text : List Char) : Nat :=
  (text.rtakeWhile (· == ':')).length

/-- Whether a text ends in a point, or in `::` once its colons are read in pairs. -/
def endsInPoint (text : List Char) : Bool :=
  text.getLast? == some '.' || (trailingColons text != 0 && trailingColons text % 2 == 0)

section Points

variable {c : Char} {rest front back : List Char}

theorem points_cons (single : c = ':' → rest.head? ≠ some ':') :
    points (c :: rest) = c :: points rest := by
  rw [points]
  rintro later rfl rfl
  exact single rfl rfl

theorem points_ne_nil (nonempty : front ≠ []) : points front ≠ [] := by
  fun_cases points front with
  | case1 => exact List.cons_ne_nil _ _
  | case2 => exact List.cons_ne_nil _ _
  | case3 => exact absurd rfl nonempty

theorem points_append (apart : front.getLast? = some ':' → back.head? ≠ some ':') :
    points (front ++ back) = points front ++ points back := by
  fun_induction points front with
  | case1 rest ih =>
      have later := ih fun last => apart (by simp [List.getLast?_cons, last])
      rw [List.cons_append, List.cons_append, points, later, List.cons_append]
  | case2 c rest notPair ih =>
      have later := ih fun last => apart (by simp [List.getLast?_cons, last])
      rw [List.cons_append, points_cons, later, List.cons_append]
      rintro rfl
      cases rest with
      | nil => exact apart rfl
      | cons d rest =>
          intro isColon
          rw [List.cons_append, List.head?_cons, Option.some.injEq] at isColon
          exact notPair rest rfl (by rw [isColon])
  | case3 => rfl

theorem points_eq_self {text : List Char} (noColon : ':' ∉ text) : points text = text := by
  induction text with
  | nil => rfl
  | cons c rest ih =>
      rw [List.mem_cons, not_or] at noColon
      rw [points_cons fun isColon => absurd isColon.symm noColon.1, ih noColon.2]

theorem replaceFrom_points (text : List Char) :
    Text.replaceFrom [':', ':'] ['.'] 0 text = points text := by
  fun_induction points text with
  | case1 rest ih => simp [Text.replaceFrom, List.isPrefixOf, ih]
  | case2 c rest notPair ih =>
      have noMatch : [':', ':'].isPrefixOf (c :: rest) = false := by
        rw [Bool.eq_false_iff, ne_eq, List.isPrefixOf_iff_prefix, List.cons_prefix_cons]
        rintro ⟨rfl, next⟩
        obtain ⟨later, rfl⟩ := next
        exact notPair later rfl rfl
      rw [Text.replaceFrom, noMatch, if_neg Bool.false_ne_true, ih]
  | case3 => rfl

theorem points_replicate : ∀ count,
    points (List.replicate count ':') =
      List.replicate (count / 2) '.' ++ List.replicate (count % 2) ':'
  | 0 => rfl
  | 1 => rfl
  | count + 2 => by
      rw [List.replicate_succ, List.replicate_succ, points, points_replicate count,
        Nat.add_div_right count Nat.two_pos, Nat.add_mod_right, List.replicate_succ,
        List.cons_append]

/-- A text that does not end in a colon, with colons behind it. -/
theorem getLast?_points_append (last : front.getLast? ≠ some ':') (count : Nat) :
    (points (front ++ List.replicate count ':')).getLast? = some '.' ↔
      if count = 0 then front.getLast? = some '.' else count % 2 = 0 := by
  rw [points_append fun isColon => absurd isColon last, points_replicate]
  by_cases none : count = 0
  · subst none
    rcases List.eq_nil_or_concat' front with rfl | ⟨front, c, rfl⟩
    · simp [points]
    · have notColon : c ≠ ':' := by simpa using last
      have alone : points [c] = [c] := points_eq_self (by simpa using notColon.symm)
      rw [points_append fun _ => by simpa using notColon, alone]
      simp
  · rw [if_neg none]
    rcases Nat.mod_two_eq_zero_or_one count with even | odd
    · have half : count / 2 ≠ 0 := by omega
      simp [even, List.getLast?_append, List.getLast?_replicate, half]
    · simp [odd, List.getLast?_append]

/-- The point in which a text ends once `::` is written so. -/
theorem getLast?_points (text : List Char) :
    (points text).getLast? = some '.' ↔ endsInPoint text = true := by
  have isColons : text.rtakeWhile (· == ':') = List.replicate (trailingColons text) ':' :=
    List.eq_replicate_of_mem fun c member => by simpa using List.mem_rtakeWhile_imp member
  have split : text.rdropWhile (· == ':') ++ List.replicate (trailingColons text) ':' = text := by
    rw [← isColons, List.rdropWhile_append_rtakeWhile]
  have last : (text.rdropWhile (· == ':')).getLast? ≠ some ':' := by
    intro isColon
    rcases List.mem_getLast?_eq_getLast isColon with ⟨nonempty, isLast⟩
    exact List.rdropWhile_last_not (· == ':') text nonempty (by simp [← isLast])
  have whole := getLast?_points_append last (trailingColons text)
  rw [split] at whole
  rw [whole, endsInPoint]
  by_cases none : trailingColons text = 0
  · rw [none, List.replicate_zero, List.append_nil] at split
    simp [none, split]
  · have isColon : text.getLast? = some ':' := by
      rw [← split, List.getLast?_append, List.getLast?_replicate, if_neg none]
      rfl
    simp [none, isColon]

theorem toList_replaceAll_points (text : String) :
    (Text.replaceAll text "::" ".").toList = points text.toList := by
  rw [Text.replaceAll, String.toList_ofList]
  exact replaceFrom_points text.toList

end Points

/-! ## Names -/

/-- The pascal case of a constant, any other word as it is. -/
def constantForm (word : List Char) : List Char :=
  if isConstantName word then (Text.pascal (Text.lowercase (.ofList word))).toList else word

section Names

variable {word : List Char}

/-- What the C# names of the renamed types have in common with their names. -/
structure Renames (name renamed : List Char) : Prop where
  isRun : (Segment.word renamed).IsRun
  isUpper : renamed.head?.any Char.isUpper = name.head?.any Char.isUpper

theorem renamed_capital : renamedInExpressions.all fun name =>
    name.toList.head?.any Char.isUpper && (typeName name).toList.head?.any Char.isUpper &&
      (typeName name).toList.all isWord := by
  decide +kernel

theorem renames_renameType (isRun : (Segment.word word).IsRun) :
    Renames word (renameType word) := by
  rw [renameType]
  split
  · rename_i found
    have isRenamed := List.all_eq_true.mp renamed_capital _ (List.contains_iff_mem.mp found)
    simp only [Bool.and_eq_true, String.toList_ofList] at isRenamed
    rcases isRenamed with ⟨⟨isUpper, renamedUpper⟩, uniform⟩
    refine ⟨⟨?_, List.all_eq_true.mp uniform⟩, renamedUpper.trans isUpper.symm⟩
    intro isEmpty
    rw [show (typeName (String.ofList word)).toList = [] from isEmpty] at renamedUpper
    cases renamedUpper
  · exact ⟨isRun, rfl⟩

theorem isNameChar_of_isConstantName (isConstant : isConstantName word = true) :
    ∀ c ∈ word, Text.isNameChar c = true := by
  cases word with
  | nil => exact fun c member => nomatch member
  | cons c rest =>
      rw [isConstantName, Bool.and_eq_true, List.all_eq_true] at isConstant
      intro d member
      have isName : d.isUpper = true ∨ d.isDigit = true ∨ d = '_' := by
        rcases List.mem_cons.mp member with rfl | inRest
        · exact .inl isConstant.1
        · simpa [or_assoc] using isConstant.2 d inRest
      simp only [Text.isNameChar, Char.isAlphanum, Char.isAlpha, Bool.or_eq_true, beq_iff_eq]
      tauto

/-- The pascal case of a constant is a word run. -/
theorem isRun_constantForm (isRun : (Segment.word word).IsRun) :
    (Segment.word (constantForm word)).IsRun := by
  rw [constantForm]
  split
  · rename_i isConstant
    have isName := isNameChar_of_isConstantName isConstant
    rw [Text.pascal_lowercase (by simpa using isName), String.toList_ofList, String.toList_ofList]
    refine Segment.isRun_word.mpr ⟨?_, fun c member =>
      Text.isWord_of_isNameChar (Text.isNameChar_of_mem_pascalChars isName c member)⟩
    cases word with
    | nil => exact absurd rfl isRun.nonempty
    | cons c rest =>
        have isUpper : c.isUpper = true := by
          rw [isConstantName, Bool.and_eq_true] at isConstant
          exact isConstant.1
        have notGap : c ≠ '_' := by
          rintro rfl
          exact absurd isUpper (by decide)
        simp [Text.pascalChars, notGap]
  · exact isRun

end Names

/-! ## The segments of the C# form -/

/-- The C# name of a word behind the given text. -/
def managedName (before word : List Char) : List Char :=
  if endsInPoint before then constantForm (renameType word) else renameType word

/-- The segments of the C# form, before any `new ` is written. -/
def managedParts (before : List Char) : List Segment → List Segment
  | [] => []
  | .gap gap :: rest => .gap (points gap) :: managedParts (before ++ gap) rest
  | .word word :: rest => .word (managedName before word) :: managedParts (before ++ word) rest

section Parts

variable {before gap word : List Char} {parts rest : List Segment}

theorem mem_points {c : Char} {text : List Char} (member : c ∈ points text) :
    c ∈ text ∨ c = '.' := by
  fun_induction points text with
  | case1 rest ih =>
      rcases List.mem_cons.mp member with rfl | later
      · exact .inr rfl
      · exact (ih later).imp_left fun inRest => by simp [inRest]
  | case2 d rest _ ih =>
      rcases List.mem_cons.mp member with rfl | later
      · exact .inl List.mem_cons_self
      · exact (ih later).imp_left (List.mem_cons_of_mem d)
  | case3 => cases member

theorem isRun_points (isRun : (Segment.gap gap).IsRun) : (Segment.gap (points gap)).IsRun := by
  rcases Segment.isRun_gap.mp isRun with ⟨nonempty, uniform⟩
  refine Segment.isRun_gap.mpr ⟨points_ne_nil nonempty, fun c member => ?_⟩
  rcases mem_points member with inGap | rfl
  · exact uniform c inGap
  · decide

theorem isRun_managedName (isRun : (Segment.word word).IsRun) :
    (Segment.word (managedName before word)).IsRun := by
  have renamed := (renames_renameType isRun).isRun
  rw [managedName]
  split
  · exact isRun_constantForm renamed
  · exact renamed

theorem alternating_managedParts (alternating : Alternating parts) :
    Alternating (managedParts before parts) := by
  refine alternating.of_forall₂ ?_
  clear alternating
  induction parts generalizing before with
  | nil => exact .nil
  | cons first rest ih =>
      cases first with
      | word word => exact .cons (fun isRun => ⟨isRun_managedName isRun, rfl⟩) ih
      | gap gap => exact .cons (fun isRun => ⟨isRun_points isRun, rfl⟩) ih

theorem getLast?_word_ne (isRun : (Segment.word word).IsRun) (front : List Char) :
    (front ++ word).getLast? ≠ some ':' := by
  rcases Segment.isRun_word.mp isRun with ⟨nonempty, uniform⟩
  rw [List.getLast?_append_of_ne_nil _ nonempty]
  intro isLast
  exact absurd (uniform ':' (List.mem_of_getLast? isLast)) (by decide)

/-- The `::` of a text stand in its gaps. -/
theorem points_flatten (alternating : Alternating parts) :
    points (flatten parts) = flatten (parts.map (Segment.mapRuns id points)) := by
  induction alternating with
  | nil => rfl
  | @cons first rest isRun apart later ih =>
      rw [List.map_cons, Text.flatten_cons, Text.flatten_cons, ← ih]
      have whole := Alternating.cons isRun apart later
      cases first with
      | word word =>
          have noColon : ':' ∉ word := fun member =>
            absurd ((Segment.isRun_word.mp isRun).2 ':' member) (by decide)
          have kept : points (word ++ flatten rest) = points word ++ points (flatten rest) :=
            points_append fun last => absurd last (getLast?_word_ne isRun [])
          exact kept.trans (congrArg (· ++ points (flatten rest)) (points_eq_self noColon))
      | gap gap =>
          refine points_append fun _ isColon => ?_
          exact absurd (whole.head?_after_gap ':' isColon) (by decide)

/-- A text ends in a point exactly if the gap does in which it ends. -/
theorem endsInPoint_append (isRun : (Segment.gap gap).IsRun)
    (apart : before.getLast? ≠ some ':') :
    endsInPoint (before ++ gap) = true ↔ (points gap).getLast? = some '.' := by
  rw [← getLast?_points, points_append fun isColon => absurd isColon apart,
    List.getLast?_append_of_ne_nil _ (points_ne_nil (Segment.isRun_gap.mp isRun).1)]

/-- The constants that follow a point, once the types have their C# names. -/
theorem renameMembers_pairs (alternating : Alternating parts)
    (isGap : parts.head?.any Segment.isWordRun = false) : ∀ before,
    before.getLast? ≠ some ':' →
      renameMembers (parts.map (Segment.mapRuns renameType points)) =
        flatten (managedParts before parts) := by
  refine Alternating.pairs ?_ ?_ ?_ alternating isGap
  · exact fun _ _ => rfl
  · exact fun _ _ _ _ => rfl
  · intro gap word rest alternating ih before apart
    have later := ih (before ++ gap ++ word) (getLast?_word_ne alternating.tail.isRun _)
    have isMember := endsInPoint_append alternating.isRun apart
    have member : (if (points gap).getLast? = some '.' && isConstantName (renameType word) then
        (Text.pascal (Text.lowercase (.ofList (renameType word)))).toList else renameType word) =
        managedName (before ++ gap) word := by
      rw [managedName, constantForm]
      by_cases ends : endsInPoint (before ++ gap) = true
      · simp only [ends, isMember.mp ends, decide_true, Bool.true_and, if_true]
      · simp [ends, mt isMember.mpr ends]
    rw [List.map_cons, List.map_cons, Segment.mapRuns, Segment.mapRuns, renameMembers, member,
      later, managedParts, managedParts, Text.flatten_cons, Text.flatten_cons, List.append_assoc]
    rfl

theorem renameMembers_word (word : List Char) (rest : List Segment) :
    renameMembers (.word word :: rest) = word ++ renameMembers rest := by
  rw [renameMembers]
  · rfl
  · exact fun _ _ _ impossible => nomatch impossible

theorem renameMembers_eq (alternating : Alternating parts) :
    renameMembers (parts.map (Segment.mapRuns renameType points)) =
      flatten (managedParts [] parts) := by
  rcases parts with _ | ⟨word | gap, rest⟩
  · rfl
  · have later := renameMembers_pairs alternating.tail alternating.head?_gap
      word (getLast?_word_ne alternating.isRun [])
    rw [List.map_cons, Segment.mapRuns, renameMembers_word, later]
    rfl
  · exact renameMembers_pairs alternating rfl [] nofun

/-- The passes in front of the last one, on the segments of a text. -/
theorem segments_renamed (text : List Char) :
    segments (renameMembers (segments (Text.mapWords renameType (points text)))) =
      managedParts [] (segments text) := by
  have alternating := Text.alternating_segments text
  have pointed : segments (points text) = (segments text).map (Segment.mapRuns id points) := by
    refine Text.segments_eq_iff.mpr ⟨?_, ?_⟩
    · exact alternating.mapRuns (fun _ isRun => isRun) (fun _ isRun => isRun_points isRun)
    · rw [← points_flatten alternating, Text.flatten_segments]
  have renamed : segments (Text.mapWords renameType (points text)) =
      (segments text).map (Segment.mapRuns renameType points) := by
    refine Text.segments_eq_iff.mpr ⟨?_, ?_⟩
    · exact alternating.mapRuns (fun _ isRun => (renames_renameType isRun).isRun)
        (fun _ isRun => isRun_points isRun)
    · rw [Text.mapWords_eq_flatten, pointed, List.map_map]
      refine congrArg flatten (List.map_congr_left fun part _ => ?_)
      cases part <;> rfl
  rw [renamed, renameMembers_eq alternating]
  exact Text.segments_flatten (alternating_managedParts alternating)

end Parts

end HeaderBindings.Managed
