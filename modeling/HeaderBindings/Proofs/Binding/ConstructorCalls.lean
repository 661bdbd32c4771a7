import HeaderBindings.Proofs.Binding.ExpressionNames

/-!
# Constructor calls in expressions

A type that an expression calls is constructed in C#.  The pass that writes `new ` takes the
character in front of a called type together with the call.  The parenthesis of one call can
therefore not be the character in front of the next one: a type that directly starts the arguments
of another one gets no `new `, unless that one got none.  So along a chain of types, each of which
starts the arguments of the one before it, every second one is constructed, and an expression is
written as it should be exactly if it has no such chain.
-/

namespace HeaderBindings.Managed

open Text (Segment Occurrence Alternating segments flatten isWord)

/-! ## Calls of types -/

/-- Whether a word is called as a type: it starts with a capital letter, no point and no `::` stands
in front of it, and a parenthesis follows it. -/
def callsType (word : Occurrence) : Bool :=
  word.word.head?.any Char.isUpper && !endsInPoint word.before && word.after.head? == some '('

/-- The word that is called with the arguments which a word directly starts. -/
def caller? (word : Occurrence) : Option Occurrence :=
  if word.before.getLast? = some '(' then
    Text.lastWord? word.before.dropLast ('(' :: (word.word ++ word.after))
  else
    none

theorem length_of_caller? {word caller : Occurrence} (found : caller? word = some caller) :
    caller.before.length < word.before.length := by
  rw [caller?] at found
  split at found
  · rename_i isOpen
    have nonempty : word.before ≠ [] := by
      rintro isEmpty
      rw [isEmpty] at isOpen
      cases isOpen
    have shorter := Text.length_of_lastWord? found
    have positive := List.length_pos_iff.mpr nonempty
    rw [List.length_dropLast] at shorter
    omega
  · cases found

/-- How many called types in a row stand in front of a word, each directly starting the arguments of
the one before it and the word those of the last one. -/
def nesting (word : Occurrence) : Nat :=
  match found : caller? word with
  | none => 0
  | some caller => if callsType caller then nesting caller + 1 else 0
termination_by word.before.length
decreasing_by exact length_of_caller? found

/-- Whether a word gets a `new `: every second one along a row of called types does. -/
def isConstructed (word : Occurrence) : Bool :=
  callsType word && nesting word % 2 == 0

section Calls

variable {before gap word after : List Char}

/-- A called type gets a `new ` unless it starts the arguments of one that does. -/
theorem isConstructed_eq (word : Occurrence) :
    isConstructed word = (callsType word && !(caller? word).any isConstructed) := by
  rw [isConstructed, nesting]
  split
  · rename_i found
    simp [found]
  · rename_i caller found
    rw [found, Option.any_some, isConstructed]
    cases callsType caller with
    | false => simp
    | true =>
        rcases Nat.mod_two_eq_zero_or_one (nesting caller) with even | odd
        · have next : (nesting caller + 1) % 2 = 1 := by omega
          simp [even, next]
        · have next : (nesting caller + 1) % 2 = 0 := by omega
          simp [odd, next]

theorem caller?_append (isRun : (Segment.gap gap).IsRun) :
    caller? ⟨before ++ gap, word, after⟩ =
      if gap = ['('] then Text.lastWord? before ('(' :: (word ++ after)) else none := by
  rcases List.eq_nil_or_concat' gap with rfl | ⟨inner, c, rfl⟩
  · exact absurd rfl isRun.nonempty
  · rw [caller?, ← List.append_assoc, List.getLast?_concat, List.dropLast_concat]
    by_cases isOpen : c = '('
    · rw [isOpen, if_pos rfl]
      by_cases alone : inner = []
      · rw [alone, List.append_nil, List.nil_append, if_pos rfl]
      · rw [if_neg (by simpa using alone), Text.lastWord?_eq_none]
        rcases List.eq_nil_or_concat' inner with rfl | ⟨front, d, rfl⟩
        · exact absurd rfl alone
        · have isGap := isRun.uniform d (by simp [Segment.chars])
          rw [← List.append_assoc, List.getLast?_concat]
          exact isGap
    · have other : inner ++ [c] ≠ ['('] := fun same =>
        isOpen (by simpa using congrArg List.getLast? same)
      rw [if_neg (by simpa using isOpen), if_neg other]

end Calls

/-! ## The words behind `new` -/

/-- The C# form of the segments behind the given text, in which `new ` is written in front of the
words that `isNew` names. -/
def writtenAfter (isNew : Occurrence → Bool) (before : List Char) : List Segment → List Char
  | [] => []
  | .gap gap :: rest => points gap ++ writtenAfter isNew (before ++ gap) rest
  | .word word :: rest =>
    (if isNew ⟨before, word, flatten rest⟩ then "new ".toList else []) ++
      (managedName before word ++ writtenAfter isNew (before ++ word) rest)

/-- The C# form of an expression, in which `new ` is written in front of the words that `isNew`
names. -/
def written (isNew : Occurrence → Bool) (text : List Char) : List Char :=
  writtenAfter isNew [] (segments text)

section New

variable {before gap word : List Char} {parts rest : List Segment} {free : Bool}

theorem isConstructor_eq {last : Option Char} (alternating : Alternating (.word word :: rest)) :
    isConstructor last word rest =
      (word.head?.any Char.isUpper && last != some '.' && (flatten rest).head? == some '(') := by
  unfold isConstructor
  refine congrArg _ ?_
  rcases rest with _ | ⟨next | run, rest⟩
  · rfl
  · exact absurd rfl (alternating.apart (.word next) rfl)
  · rcases run with _ | ⟨c, run⟩
    · exact absurd rfl alternating.tail.isRun.nonempty
    · by_cases isOpen : c = '('
      · simp [isOpen]
      · simp [isOpen]

theorem head?_points_open (text : List Char) :
    (points text).head? = some '(' ↔ text.head? = some '(' := by
  fun_cases points text with
  | case1 => simp
  | case2 => simp
  | case3 => rfl

theorem head?_managedParts_open (alternating : Alternating (.word word :: rest)) :
    (flatten (managedParts before rest)).head? = some '(' ↔ (flatten rest).head? = some '(' := by
  rcases rest with _ | ⟨next | gap, rest⟩
  · rfl
  · exact absurd rfl (alternating.apart (.word next) rfl)
  · have nonempty := (Segment.isRun_gap.mp alternating.tail.isRun).1
    rw [managedParts, Text.flatten_cons, Text.flatten_cons, Segment.chars_gap, Segment.chars_gap,
      List.head?_append_of_ne_nil _ (points_ne_nil nonempty),
      List.head?_append_of_ne_nil _ nonempty]
    exact head?_points_open gap

/-- The test for a call reads the C# form as it would read the expression. -/
theorem isConstructor_managed (alternating : Alternating (.word word :: rest))
    (isMember : gap.getLast? = some '.' ↔ endsInPoint before = true) :
    isConstructor gap.getLast? (managedName before word) (managedParts (before ++ word) rest) =
      callsType ⟨before, word, flatten rest⟩ := by
  rw [isConstructor_eq (@alternating_managedParts before _ alternating), callsType,
    Bool.eq_iff_iff]
  simp only [Bool.and_eq_true, beq_iff_eq, bne_iff_ne, ne_eq, isMember,
    head?_managedParts_open alternating]
  rw [managedName]
  cases endsInPoint before with
  | true => simp
  | false => simp [(renames_renameType alternating.isRun).isUpper]

/-- What is written for a word, given what is written for all that follows. -/
theorem insertNew_word (alternating : Alternating (.word word :: rest))
    (isMember : gap.getLast? = some '.' ↔ endsInPoint before = true)
    (isFree : free = !(caller? ⟨before, word, flatten rest⟩).any isConstructed)
    (later : ∀ free, free = !isConstructed ⟨before, word, flatten rest⟩ →
      insertNew [] free (managedParts (before ++ word) rest) =
        writtenAfter isConstructed (before ++ word) rest) :
    insertNew gap free (managedParts before (.word word :: rest)) =
      writtenAfter isConstructed before (.word word :: rest) := by
  rw [managedParts, insertNew, writtenAfter, isConstructor_managed alternating isMember]
  have marked : (free && callsType ⟨before, word, flatten rest⟩) =
      isConstructed ⟨before, word, flatten rest⟩ := by
    rw [isConstructed_eq, isFree, Bool.and_comm]
  rw [marked]
  cases isNew : isConstructed ⟨before, word, flatten rest⟩ with
  | true =>
    rw [isNew] at later
    rw [if_pos rfl, if_pos rfl, ← later false rfl, List.append_assoc]
  | false =>
    rw [isNew] at later
    rw [if_neg Bool.false_ne_true, if_neg Bool.false_ne_true, ← later true rfl, List.nil_append]

theorem getLast?_gap (isRun : (Segment.gap gap).IsRun) (before : List Char) :
    (before ++ gap).getLast?.any isWord = false := by
  rcases Segment.isRun_gap.mp isRun with ⟨nonempty, uniform⟩
  rw [List.getLast?_append_of_ne_nil _ nonempty, List.getLast?_eq_some_getLast nonempty]
  exact uniform _ (List.getLast_mem nonempty)

/-- The gap behind a constructed type is longer than its parenthesis, or it is that parenthesis. -/
theorem length_points_of_constructed {after : List Char} (isRun : (Segment.gap gap).IsRun)
    (notOpen : gap ≠ ['('])
    (constructed : (Text.lastWord? before (gap ++ after)).any isConstructed = true) :
    1 < (points gap).length := by
  cases found : Text.lastWord? before (gap ++ after) with
  | none =>
      rw [found] at constructed
      cases constructed
  | some last =>
      rw [found, Option.any_some, isConstructed, callsType] at constructed
      simp only [Bool.and_eq_true, beq_iff_eq, Text.after_of_lastWord? found] at constructed
      have isOpen := constructed.1.2
      rcases gap with _ | ⟨c, _ | ⟨d, inner⟩⟩
      · exact absurd rfl isRun.nonempty
      · rw [List.singleton_append, List.head?_cons, Option.some.injEq] at isOpen
        exact absurd (by rw [isOpen]) notOpen
      · rw [List.cons_append, List.head?_cons, Option.some.injEq] at isOpen
        rw [isOpen, points_cons fun impossible => absurd impossible (by decide)]
        exact Nat.succ_lt_succ (List.length_pos_iff.mpr (points_ne_nil (List.cons_ne_nil d inner)))

/-- The last pass over gaps and words in turn.  Its flag tells whether the word in front of the
segments, if there is one, was left without a `new `. -/
theorem insertNew_pairs (alternating : Alternating parts)
    (isGap : parts.head?.any Segment.isWordRun = false) : ∀ before free,
    before.getLast? ≠ some ':' →
    free = (!(Text.lastWord? before (flatten parts)).any isConstructed) →
      insertNew [] free (managedParts before parts) = writtenAfter isConstructed before parts := by
  refine Alternating.pairs ?_ ?_ ?_ alternating isGap
  · exact fun _ _ _ _ => rfl
  · exact fun _ _ _ _ _ _ => rfl
  · intro gap word rest alternating ih before free apart isFree
    rw [managedParts, insertNew, writtenAfter]
    refine congrArg (points gap ++ ·) (insertNew_word alternating.tail ?_ ?_ ?_)
    · exact (endsInPoint_append alternating.isRun apart).symm
    · rw [caller?_append alternating.isRun]
      split
      · rename_i isOpen
        subst isOpen
        exact (Bool.or_false _).trans isFree
      · -- no call directly in front: the word is free whatever the flag says
        rename_i notOpen
        cases free with
        | true => rfl
        | false =>
            have isLong : 1 < (points gap).length :=
              length_points_of_constructed alternating.isRun notOpen (by simpa using isFree)
            simpa using isLong
    · intro free isFree
      refine ih (before ++ gap ++ word) free (getLast?_word_ne alternating.tail.isRun _) ?_
      rw [Text.lastWord?_append alternating.tail.isRun (getLast?_gap alternating.isRun before)]
      exact isFree

theorem insertNew_eq (alternating : Alternating parts) :
    insertNew [] true (managedParts [] parts) = writtenAfter isConstructed [] parts := by
  rcases parts with _ | ⟨word | gap, rest⟩
  · rfl
  · refine insertNew_word alternating (by decide) rfl fun free isFree => ?_
    refine insertNew_pairs alternating.tail alternating.head?_gap word free
      (getLast?_word_ne alternating.isRun []) ?_
    have last := @Text.lastWord?_append [] word (flatten rest) alternating.isRun rfl
    rw [List.nil_append] at last
    rw [last]
    exact isFree
  · exact insertNew_pairs alternating rfl [] true nofun rfl

end New

/-! ## Expressions -/

section Marks

variable {isNew isMore : Occurrence → Bool} {before : List Char} {parts : List Segment}

theorem writtenAfter_congr
    (same : ∀ word ∈ Text.occurrencesAfter before parts, isNew word = isMore word) :
    writtenAfter isNew before parts = writtenAfter isMore before parts := by
  induction parts generalizing before with
  | nil => rfl
  | cons first rest ih =>
      cases first with
      | gap gap => rw [writtenAfter, writtenAfter, ih same]
      | word word =>
          rcases List.forall_mem_cons.mp same with ⟨here, later⟩
          rw [writtenAfter, writtenAfter, here, ih later]

theorem length_writtenAfter_le (fewer : ∀ word, isNew word = true → isMore word = true) :
    (writtenAfter isNew before parts).length ≤ (writtenAfter isMore before parts).length := by
  induction parts generalizing before with
  | nil => exact Nat.le_refl 0
  | cons first rest ih =>
      cases first with
      | gap gap =>
          have later := @ih (before ++ gap)
          simp only [writtenAfter, List.length_append]
          omega
      | word word =>
          have later := @ih (before ++ word)
          have here := fewer ⟨before, word, flatten rest⟩
          simp only [writtenAfter, List.length_append]
          cases isHere : isNew ⟨before, word, flatten rest⟩ with
          | false => simp only [Bool.false_eq_true, if_false, List.length_nil]; omega
          | true => rw [here isHere]; omega

/-- Writing `new ` in front of fewer words makes a difference. -/
theorem writtenAfter_eq_iff (fewer : ∀ word, isNew word = true → isMore word = true) :
    writtenAfter isNew before parts = writtenAfter isMore before parts ↔
      ∀ word ∈ Text.occurrencesAfter before parts, isNew word = isMore word := by
  refine ⟨fun equal => ?_, writtenAfter_congr⟩
  induction parts generalizing before with
  | nil => exact fun _ impossible => nomatch impossible
  | cons first rest ih =>
      cases first with
      | gap gap =>
          rw [writtenAfter, writtenAfter, List.append_cancel_left_eq] at equal
          exact ih equal
      | word word =>
          have same : isNew ⟨before, word, flatten rest⟩ = isMore ⟨before, word, flatten rest⟩ := by
            rw [Bool.eq_iff_iff]
            refine ⟨fewer _, fun more => ?_⟩
            by_contra notNew
            -- one more `new ` makes the text longer
            have shorter := @length_writtenAfter_le _ _ (before ++ word) rest fewer
            have lengths := congrArg List.length equal
            simp only [writtenAfter, more, notNew, if_true, if_false, List.length_append,
              List.length_nil] at lengths
            have added : "new ".toList.length = 4 := by decide
            omega
          rw [writtenAfter, writtenAfter, same, List.append_cancel_left_eq,
            List.append_cancel_left_eq] at equal
          exact List.forall_mem_cons.mpr ⟨same, ih equal⟩

end Marks

theorem callsType_of_isConstructed {word : Occurrence} (isNew : isConstructed word = true) :
    callsType word = true := by
  rw [isConstructed, Bool.and_eq_true] at isNew
  exact isNew.1

theorem mem_of_caller? {text : List Char} {word caller : Occurrence}
    (member : word ∈ Text.occurrences text) (found : caller? word = some caller) :
    caller ∈ Text.occurrences text := by
  rw [caller?] at found
  split at found
  · rename_i isOpen
    have whole : word.before.dropLast ++ '(' :: (word.word ++ word.after) = text := by
      rw [← Text.eq_of_mem_occurrences member, List.append_cons,
        List.dropLast_append_getLast? _ isOpen]
    rw [← whole]
    exact Text.mem_occurrences_of_lastWord? found rfl
  · cases found

/-- Every called type is constructed exactly if none of them starts the arguments of another one. -/
theorem constructed_iff (text : List Char) :
    (∀ word ∈ Text.occurrences text, isConstructed word = callsType word) ↔
      ∀ word ∈ Text.occurrences text, callsType word = true →
        (caller? word).any callsType = false := by
  constructor
  · intro same word member calls
    have isNew := same word member
    rw [isConstructed_eq, calls, Bool.true_and, Bool.not_eq_true'] at isNew
    cases found : caller? word with
    | none => rfl
    | some caller =>
        rw [found, Option.any_some, same caller (mem_of_caller? member found)] at isNew
        exact isNew
  · intro apart word member
    rw [isConstructed_eq]
    cases calls : callsType word with
    | false => rfl
    | true =>
        have noCall := apart word member calls
        cases found : caller? word with
        | none => rfl
        | some caller =>
            rw [found, Option.any_some] at noCall
            rw [Option.any_some, isConstructed, noCall]
            rfl

/-- The C# form of every expression: its names, and a `new ` in front of every constructed type. -/
theorem expression_written (text : String) :
    (expression text).toList = written isConstructed (unqualified text) := by
  have alternating := Text.alternating_segments (unqualified text)
  rw [unqualified] at alternating
  rw [expression, String.toList_ofList, toList_replaceAll_points, segments_renamed,
    insertNew_eq alternating, written, unqualified]

example : expression "A(B(C(D(1))))" = "new A(B(new C(D(1))))" := by
  decide +kernel

/--
The C# form of an expression has a `new ` in front of the constructed types and nowhere else, and
every word under its C# name.  These are all the types that are called exactly if none of them
starts the arguments of another one.  The words and what stands in front of them are those of the
expression without `godot::`; this is the expression without the words `godot` and the `::` behind
them, unless another word ends in `godot`.
-/
theorem expression_constructs (text : String) :
    (expression text).toList = written isConstructed (unqualified text) ∧
      ((expression text).toList = written callsType (unqualified text) ↔
        ∀ word ∈ Text.occurrences (unqualified text), callsType word = true →
          (caller? word).any callsType = false) ∧
      (EngineIsWhole (Text.occurrences text.toList) →
        unqualified text = withoutEngine false (segments text.toList)) := by
  refine ⟨expression_written text, ?_, unqualified_eq⟩
  rw [expression_written, written, written,
    writtenAfter_eq_iff fun word => callsType_of_isConstructed, ← constructed_iff]
  rfl

/-- Two calls, neither of which starts the arguments of the other one. -/
theorem color_constructs :
    (expression "godot::Color(1, godot::Vector3i(2))").toList =
      written callsType
        (withoutEngine false (segments "godot::Color(1, godot::Vector3i(2))".toList)) := by
  have constructs := expression_constructs "godot::Color(1, godot::Vector3i(2))"
  rw [← constructs.2.2 (by decide +kernel)]
  exact constructs.2.1.mpr (by decide +kernel)

/-- A type that starts the arguments of another one gets no `new `, and neither is a word that ends
in `godot` kept apart from what it qualifies. -/
theorem calls_not_always_constructed :
    (expression "godot::Transform3D(godot::Basis(), godot::Vector3())" =
        "new Transform3D(Basis(), new Vector3())" ∧
      String.ofList (written callsType (withoutEngine false
        (segments "godot::Transform3D(godot::Basis(), godot::Vector3())".toList))) =
        "new Transform3D(new Basis(), new Vector3())") ∧
    expression "Mygodot::Color(1)" = "new MyColor(1)" ∧
      String.ofList (written callsType (withoutEngine false
        (segments "Mygodot::Color(1)".toList))) = "Mygodot.Color(1)" := by
  decide +kernel

end HeaderBindings.Managed
