import HeaderBindings.Proofs.Binding.DocsPieces

/-!
# The order of documentation

Parameters come last, and they are parameters of the function that is documented.
So documentation is refused exactly if a piece of it names no such parameter, or
belongs to the summary and stands behind a parameter.  All other lines may stand
anywhere: a line that is added between the others changes nothing unless it is a
fence or has the tag of a parameter or of a part of the summary.
-/

namespace HeaderBindings.Managed

/-! ## Pieces in disorder -/

/-- A piece that cannot stand behind the pieces before it. -/
inductive Faulty (expected : List String) (before : List DocsPiece) : DocsPiece → Prop where
  | unknownParam {name text : String} (unknown : name ∉ expected) :
      Faulty expected before (.param name text)
  | latePart {tag text : String} {label : Option DocsLabel}
      (late : ∃ earlier ∈ before, earlier.isParam = true) :
      Faulty expected before (.part tag label text)
  | lateCode {lines : List String} (late : ∃ earlier ∈ before, earlier.isParam = true) :
      Faulty expected before (.code lines)

namespace DocsPiece

variable {expected : List String} {before pieces : List DocsPiece} {piece : DocsPiece}

theorem exists_fault?_iff :
    (∃ error, piece.fault? expected (before.any isParam) = some error) ↔
      Faulty expected before piece := by
  constructor
  · rintro ⟨error, isFault⟩
    cases piece with
    | param name text =>
        refine .unknownParam fun known => ?_
        rw [fault?, if_pos (List.contains_iff_mem.mpr known)] at isFault
        cases isFault
    | part tag label text =>
        cases late : before.any isParam with
        | true => exact .latePart (List.any_eq_true.mp late)
        | false => simp [fault?, late] at isFault
    | code lines =>
        cases late : before.any isParam with
        | true => exact .lateCode (List.any_eq_true.mp late)
        | false => simp [fault?, late] at isFault
    | hidden => cases isFault
    | prose text => cases isFault
  · intro faulty
    cases faulty with
    | unknownParam unknown =>
        exact ⟨_, if_neg fun known => unknown (List.contains_iff_mem.mp known)⟩
    | latePart late => exact ⟨_, if_pos (List.any_eq_true.mpr late)⟩
    | lateCode late => exact ⟨_, if_pos (List.any_eq_true.mpr late)⟩

/-- Some piece is not in order exactly if there is a first one. -/
theorem exists_firstFault?_iff {behindParam : Bool} :
    (∃ error, firstFault? expected behindParam pieces = some error) ↔
      ∃ before piece after, pieces = before ++ piece :: after ∧
        ∃ error, piece.fault? expected (behindParam || before.any isParam) = some error := by
  induction pieces generalizing behindParam with
  | nil => simp [firstFault?]
  | cons first rest ih =>
      rw [firstFault?]
      cases isFault : first.fault? expected behindParam with
      | some error =>
          refine iff_of_true ⟨error, rfl⟩ ⟨[], first, rest, rfl, error, ?_⟩
          simpa using isFault
      | none =>
          rw [ih]
          constructor
          · rintro ⟨before, piece, after, rfl, error, found⟩
            exact ⟨first :: before, piece, after, rfl, error, by simpa [Bool.or_assoc] using found⟩
          · rintro ⟨before, piece, after, split, error, found⟩
            cases before with
            | nil =>
                cases split
                rw [List.any_nil, Bool.or_false, isFault] at found
                cases found
            | cons other before =>
                cases split
                exact ⟨before, piece, after, rfl, error, by simpa [Bool.or_assoc] using found⟩

end DocsPiece

/-! ## Lines that may stand anywhere -/

/-- A line that is no fence and neither names a parameter nor starts a part of the summary: a blank
one, free text, a line with an unknown tag, or a private one. -/
structure Idle (line : String) : Prop where
  notFence : ¬ IsFence line
  untagged : ∀ tag rest, Tagged line tag rest → tag ∉ "param" :: summaryTags.map Prod.fst

theorem Idle.exists_isPiece {line : String} (idle : Idle line) :
    ∃ piece, IsPiece line piece ∧ piece.isParam = false ∧
      ∀ expected behindParam, piece.fault? expected behindParam = none := by
  rcases HeaderBindings.Managed.exists_isPiece idle.notFence with ⟨piece, isPiece⟩
  refine ⟨piece, isPiece, ?_⟩
  cases isPiece with
  | param tagged named => exact absurd List.mem_cons_self (idle.untagged _ _ tagged)
  | part tagged known =>
      exact absurd (List.mem_cons_of_mem _ (List.mem_map_of_mem known)) (idle.untagged _ _ tagged)
  | hidden tagged => exact ⟨rfl, fun _ _ => rfl⟩
  | prose notFence unknown => exact ⟨rfl, fun _ _ => rfl⟩

namespace DocsDraft

variable {expected : List String} {draft other : DocsDraft}

/-- What the order of the remaining lines depends on. -/
def state (draft : DocsDraft) : Bool × Bool :=
  (draft.code.isSome, draft.params.isEmpty)

theorem state_closeCode (draft : DocsDraft) :
    draft.closeCode.state = (false, draft.params.isEmpty) := by
  rw [closeCode]
  split
  · rename_i outside
    rw [state, outside]
    rfl
  · rfl

theorem state_addProse (text : String) : (draft.addProse text).state = draft.state := by
  rw [addProse]
  split
  · rename_i params
    rw [state, state, params]
    rfl
  · rfl

/-- Whether a line is in order depends on nothing else, and neither does the state behind it. -/
theorem step_state (expected : List String) (same : draft.state = other.state) (line : String) :
    (step expected draft line).map state = (step expected other line).map state := by
  rw [state, state, Prod.mk.injEq] at same
  rcases same with ⟨sameCode, sameParams⟩
  rw [step, step]
  cases inDraft : draft.code with
  | none =>
      have outside : other.code = none := by
        simpa [inDraft] using sameCode.symm
      rw [outside]
      cases DocsLine.ofText line with
      | fence =>
          simp only [read, sameParams]
          cases other.params.isEmpty <;> simp [Except.map, state, sameParams]
      | param name text =>
          simp only [read]
          cases expected.contains name <;> simp [Except.map, state, inDraft, outside]
      | part tag label text =>
          simp only [read, sameParams]
          cases other.params.isEmpty <;> simp [Except.map, state, inDraft, outside, sameParams]
      | hidden => simp [read, Except.map, state, inDraft, outside, sameParams]
      | prose text =>
          simp only [read, Except.map, state_addProse]
          rw [state, state, inDraft, outside, sameParams]
  | some code =>
      obtain ⟨others, inside⟩ : ∃ others, other.code = some others := by
        rw [inDraft] at sameCode
        exact Option.isSome_iff_exists.mp sameCode.symm
      rw [inside]
      cases Text.startsWith line "```" with
      | true => simp [Except.map, state_closeCode, sameParams]
      | false => simp [Except.map, state, sameParams]

theorem foldlM_step_state (same : draft.state = other.state) (lines : List String) :
    (lines.foldlM (step expected) draft).map state =
      (lines.foldlM (step expected) other).map state := by
  induction lines generalizing draft other with
  | nil => exact congrArg Except.ok same
  | cons line lines ih =>
      have here := step_state expected same line
      rw [List.foldlM_cons, List.foldlM_cons]
      cases first : step expected draft line with
      | error error =>
          cases second : step expected other line with
          | error others => rw [first, second] at here; cases here; rfl
          | ok next => rw [first, second] at here; cases here
      | ok next =>
          cases second : step expected other line with
          | error others => rw [first, second] at here; cases here
          | ok others =>
              rw [first, second] at here
              exact ih (Except.ok.inj here)

/-- An idle line leaves the state as it is. -/
theorem step_idle (expected : List String) {line : String} (idle : Idle line) (draft : DocsDraft) :
    ∃ next, step expected draft line = .ok next ∧ next.state = draft.state := by
  cases inDraft : draft.code with
  | some code =>
      refine ⟨{ draft with code := some (code ++ [line]) }, ?_, ?_⟩
      · rw [step, inDraft]
        exact if_neg fun starts => idle.notFence (startsWith_fence_iff.mp starts)
      · rw [state, state, inDraft]
        rfl
  | none =>
      rcases idle.exists_isPiece with ⟨piece, isPiece, notParam, inOrder⟩
      refine ⟨draft.take piece, ?_, ?_⟩
      · rw [step_isPiece isPiece inDraft, readPiece, inOrder]
      · have params := take_params draft piece
        rw [notParam, Bool.or_false, Bool.not_inj_iff] at params
        rw [state, state, take_code, params]

/-- A line that may stand anywhere has no influence on the outcome but on the text. -/
theorem foldlM_step_idle {line : String} (idle : Idle line) (before after : List String) :
    ((before ++ line :: after).foldlM (step expected) draft).map state =
      ((before ++ after).foldlM (step expected) draft).map state := by
  rw [List.foldlM_append, List.foldlM_append]
  cases before.foldlM (step expected) draft with
  | error error => rfl
  | ok next =>
      rcases step_idle expected idle next with ⟨idled, stepped, same⟩
      show ((line :: after).foldlM (step expected) next).map state = _
      rw [List.foldlM_cons, stepped]
      exact foldlM_step_state same after

end DocsDraft

/-! ## Refusal -/

section Refusal

variable {expected docs : List String} {error : DocsError}

theorem xmlDocs_eq_error_iff_firstFault? {pieces : List DocsPiece}
    (consists : Consists (docs.map Text.trim) pieces) :
    xmlDocs expected docs = .error error ↔
      DocsPiece.firstFault? expected false pieces = some error := by
  rw [xmlDocs_consists consists]
  cases DocsPiece.firstFault? expected false pieces <;> simp

theorem xmlDocs_eq_error_iff_foldlM :
    xmlDocs expected docs = .error error ↔
      ((docs.map Text.trim).foldlM (DocsDraft.step expected) {}).map DocsDraft.state =
        .error error := by
  rcases exists_consists (docs.map Text.trim) with ⟨pieces, consists⟩
  have outside : ({} : DocsDraft).code = none := rfl
  have closed : ((docs.map Text.trim).foldlM (DocsDraft.step expected) {}).map
        DocsDraft.closeCode = .error error ↔
      DocsPiece.firstFault? expected false pieces = some error := by
    rw [DocsDraft.foldlM_step_consists consists outside, DocsDraft.foldlM_readPiece]
    have noParam : (!({} : DocsDraft).params.isEmpty) = false := rfl
    rw [noParam]
    cases DocsPiece.firstFault? expected false pieces <;> simp
  rw [xmlDocs_eq_error_iff_firstFault? consists, ← closed, Outcome.map_eq_error_iff,
    Outcome.map_eq_error_iff]

end Refusal

/--
Documentation is refused exactly if a parameter in it is not among the expected
ones, or if a part of the summary or a code block stands behind a parameter.
Lines of any other kind can be added anywhere, and removed, without a difference.
-/
theorem xmlDocs_refused_iff (expected docs : List String) :
    (∃ pieces, Consists (docs.map Text.trim) pieces) ∧
      (∀ pieces, Consists (docs.map Text.trim) pieces →
        ((∃ error, xmlDocs expected docs = .error error) ↔
          ∃ before piece after, pieces = before ++ piece :: after ∧
            Faulty expected before piece)) ∧
      ∀ before line after, docs = before ++ line :: after → Idle (Text.trim line) →
        ∀ error, xmlDocs expected docs = .error error ↔
          xmlDocs expected (before ++ after) = .error error := by
  refine ⟨exists_consists _, fun pieces consists => ?_, ?_⟩
  · have first : (∃ error, xmlDocs expected docs = .error error) ↔
        ∃ error, DocsPiece.firstFault? expected false pieces = some error :=
      exists_congr fun error => xmlDocs_eq_error_iff_firstFault? consists
    rw [first, DocsPiece.exists_firstFault?_iff]
    simp only [Bool.false_or, DocsPiece.exists_fault?_iff]
  · rintro before line after rfl idle error
    rw [xmlDocs_eq_error_iff_foldlM, xmlDocs_eq_error_iff_foldlM, List.map_append, List.map_cons,
      List.map_append, DocsDraft.foldlM_step_idle idle]

/-- A note behind a parameter, whose documentation takes two lines. -/
def lateNote : List String :=
  ["@param value The value", "  and its unit", "@note Too late"]

/-- The pieces of `lateNote`. -/
def lateNotePieces : List DocsPiece :=
  [.param "value" "The value", .prose "and its unit", .part "note" (some .note) "Too late"]

theorem lateNote_consists : Consists (lateNote.map Text.trim) lateNotePieces := by
  have lines : lateNote.map Text.trim =
      ["@param value The value", "and its unit", "@note Too late"] := by decide
  have untagged : ∀ tag rest, ¬ Tagged "and its unit" tag rest := fun _ _ => not_tagged (by decide)
  have notFence : ¬ IsFence "and its unit" := fun fence =>
    absurd (startsWith_fence_iff.mpr fence) (by decide)
  rw [lines]
  have param : Tagged "@param value The value" "param" "value The value" :=
    ⟨"param value The value", rfl, firstField_splitField "param value The value"⟩
  refine .line (.param param ?_)
    (.line (.prose notFence fun tag rest tagged => absurd tagged (untagged tag rest))
      (.line (.part ⟨"note Too late", rfl, ?_⟩ (by decide)) .nil))
  · exact firstField_splitField "value The value"
  · exact firstField_splitField "note Too late"

theorem lateNote_refused :
    Consists (lateNote.map Text.trim) lateNotePieces ∧ Idle (Text.trim "  and its unit") ∧
      (∃ error, xmlDocs ["value"] lateNote = .error error) ∧
      ∀ error, xmlDocs ["value"] lateNote = .error error ↔
        xmlDocs ["value"] ["@param value The value", "@note Too late"] = .error error := by
  have idle : Idle (Text.trim "  and its unit") := by
    refine ⟨fun fence => absurd (startsWith_fence_iff.mpr fence) (by decide), ?_⟩
    exact fun tag rest tagged => absurd tagged (not_tagged (by decide))
  obtain ⟨_, refusedIff, unchanged⟩ := xmlDocs_refused_iff ["value"] lateNote
  refine ⟨lateNote_consists, idle, ?_, ?_⟩
  · refine (refusedIff lateNotePieces lateNote_consists).mpr ?_
    exact ⟨[.param "value" "The value", .prose "and its unit"],
      .part "note" (some .note) "Too late", [], rfl, .latePart ⟨_, List.mem_cons_self, rfl⟩⟩
  · exact unchanged ["@param value The value"] "  and its unit" ["@note Too late"] rfl idle

end HeaderBindings.Managed
