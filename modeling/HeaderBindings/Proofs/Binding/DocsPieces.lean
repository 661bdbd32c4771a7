import HeaderBindings.Binding.Managed.Docs
import HeaderBindings.Proofs.Outcome
import HeaderBindings.Proofs.Text.Slice

/-!
# The pieces of documentation

Documentation consists of lines, which are told apart by their tags, and of code
blocks between fences, in which tags say nothing.  What a line or a code block is
follows from the text alone.  Reading the lines one by one, with a code block
that may be open, is the same as reading the pieces one by one.
-/

namespace HeaderBindings.Managed

/-! ## Fields and tags -/

/-- A text with its first field, which has no blanks, and with what follows that field, from its
first to its last character that is no blank. -/
inductive FirstField : String → String → String → Prop where
  | alone (field : String) (solid : ∀ c ∈ field.toList, Text.isBlank c = false) :
      FirstField field field ""
  | followed (field rest : String) (blank : Char)
      (solid : ∀ c ∈ field.toList, Text.isBlank c = false)
      (isBlank : Text.isBlank blank = true) :
      FirstField (field ++ String.singleton blank ++ rest) field (Text.trim rest)

theorem FirstField.splitField_eq {text field rest : String} (isField : FirstField text field rest) :
    splitField text = (field, rest) := by
  cases isField with
  | alone _ solid =>
      have all : ∀ c ∈ text.toList, (!Text.isBlank c) = true := by simpa using solid
      have dropped : text.toList.dropWhile (fun c => !Text.isBlank c) = [] :=
        List.dropWhile_eq_nil_iff.mpr all
      rw [splitField, Text.splitFirstWhere?, dropped]
  | followed field rest blank solid isBlank =>
      have all : ∀ c ∈ field.toList, (!Text.isBlank c) = true := by simpa using solid
      have chars : (field ++ String.singleton blank ++ rest).toList =
          field.toList ++ blank :: rest.toList := by
        simp
      rw [splitField, Text.splitFirstWhere?, chars, List.dropWhile_append_of_pos all,
        List.takeWhile_append_of_pos all]
      simp [isBlank]

theorem firstField_splitField (text : String) :
    FirstField text (splitField text).1 (splitField text).2 := by
  have solid : ∀ c ∈ text.toList.takeWhile (fun c => !Text.isBlank c), Text.isBlank c = false := by
    intro c member
    simpa using List.mem_takeWhile_imp member
  have whole := List.takeWhile_append_dropWhile (p := fun c => !Text.isBlank c) (l := text.toList)
  rw [splitField, Text.splitFirstWhere?]
  cases remaining : text.toList.dropWhile (fun c => !Text.isBlank c) with
  | nil =>
      rw [remaining, List.append_nil] at whole
      rw [whole] at solid
      exact .alone text solid
  | cons blank rest =>
      have isBlank : Text.isBlank blank = true := by
        have first := List.head_dropWhile_not (fun c => !Text.isBlank c)
          (l := text.toList) (by simp [remaining])
        simpa [remaining] using first
      have split : text =
          .ofList (text.toList.takeWhile fun c => !Text.isBlank c) ++ String.singleton blank ++
            .ofList rest := by
        apply String.toList_injective
        simpa [remaining] using whole.symm
      have followed := FirstField.followed
        (.ofList (text.toList.takeWhile fun c => !Text.isBlank c)) (.ofList rest) blank
        (by simpa using solid) isBlank
      rwa [← split] at followed

/-- A line with a tag, and what follows the tag. -/
def Tagged (line tag rest : String) : Prop :=
  ∃ tagged, line = "@" ++ tagged ∧ FirstField tagged tag rest

/-- A line that starts or ends a code block. -/
def IsFence (line : String) : Prop :=
  ∃ rest, line = "```" ++ rest

theorem startsWith_fence_iff {line : String} :
    Text.startsWith line "```" = true ↔ IsFence line :=
  Text.startsWith_iff_exists

theorem not_tagged {line tag rest : String} (absent : Text.startsWith line "@" = false) :
    ¬ Tagged line tag rest := by
  rintro ⟨tagged, isLine, _⟩
  exact Bool.eq_false_iff.mp absent (Text.startsWith_iff_exists.mpr ⟨tagged, isLine⟩)

theorem Tagged.not_fence {line tag rest : String} (isTagged : Tagged line tag rest) :
    ¬ IsFence line := by
  rcases isTagged with ⟨tagged, rfl, _⟩
  rintro ⟨others, same⟩
  have chars := congrArg String.toList same
  simp at chars

/-! ## Pieces -/

/-- The tags that start a part of the summary, with the labels of the parts. -/
def summaryTags : List (String × Option DocsLabel) :=
  [("brief", none), ("note", some .note), ("warning", some .warning),
    ("deprecated", some .deprecated)]

/-- The tags that have a meaning. -/
def knownTags : List String :=
  "param" :: "private" :: summaryTags.map Prod.fst

/-- A piece of documentation. -/
inductive DocsPiece where
  | param (name text : String)
  | part (tag : String) (label : Option DocsLabel) (text : String)
  | hidden
  | prose (text : String)
  | code (lines : List String)

/-- What a line outside code blocks is.  A line with an unknown tag is prose, and a parameter that
is not named has the empty name. -/
inductive IsPiece : String → DocsPiece → Prop where
  | param {line rest name text : String} (tagged : Tagged line "param" rest)
      (named : FirstField rest name text) : IsPiece line (.param name text)
  | part {line tag text : String} {label : Option DocsLabel} (tagged : Tagged line tag text)
      (known : (tag, label) ∈ summaryTags) : IsPiece line (.part tag label text)
  | hidden {line rest : String} (tagged : Tagged line "private" rest) : IsPiece line .hidden
  | prose {line : String} (notFence : ¬ IsFence line)
      (unknown : ∀ tag rest, Tagged line tag rest → tag ∉ knownTags) : IsPiece line (.prose line)

/-- The pieces that lines consist of.  A code block that is not closed goes on to the end. -/
inductive Consists : List String → List DocsPiece → Prop where
  | nil : Consists [] []
  | line {line : String} {piece : DocsPiece} {lines : List String} {pieces : List DocsPiece}
      (isPiece : IsPiece line piece) (rest : Consists lines pieces) :
      Consists (line :: lines) (piece :: pieces)
  | block {opening closing : String} {body lines : List String} {pieces : List DocsPiece}
      (opens : IsFence opening) (inside : ∀ line ∈ body, ¬ IsFence line) (closes : IsFence closing)
      (rest : Consists lines pieces) :
      Consists (opening :: (body ++ closing :: lines)) (.code body :: pieces)
  | openBlock {opening : String} {body : List String}
      (opens : IsFence opening) (inside : ∀ line ∈ body, ¬ IsFence line) :
      Consists (opening :: body) [.code body]

theorem IsPiece.not_fence {line : String} {piece : DocsPiece} (isPiece : IsPiece line piece) :
    ¬ IsFence line := by
  cases isPiece with
  | param tagged named => exact tagged.not_fence
  | part tagged known => exact tagged.not_fence
  | hidden tagged => exact tagged.not_fence
  | prose notFence unknown => exact notFence

/-- Every line outside code blocks is a piece. -/
theorem exists_isPiece {line : String} (notFence : ¬ IsFence line) :
    ∃ piece, IsPiece line piece := by
  by_cases known : ∃ tag rest, Tagged line tag rest ∧ tag ∈ knownTags
  · rcases known with ⟨tag, rest, tagged, isKnown⟩
    rcases List.mem_cons.mp isKnown with rfl | later
    · exact ⟨_, .param tagged (firstField_splitField rest)⟩
    · rcases List.mem_cons.mp later with rfl | isSummary
      · exact ⟨_, .hidden tagged⟩
      · rcases List.mem_map.mp isSummary with ⟨⟨_, label⟩, isTag, rfl⟩
        exact ⟨_, .part tagged isTag⟩
  · refine ⟨_, .prose notFence ?_⟩
    intro tag rest tagged isKnown
    exact known ⟨tag, rest, tagged, isKnown⟩

/-- All lines consist of pieces, also those that start inside a code block. -/
theorem exists_consists_within (lines : List String) :
    (∃ pieces, Consists lines pieces) ∧
      ∀ opening body, IsFence opening → (∀ line ∈ body, ¬ IsFence line) →
        ∃ pieces, Consists (opening :: (body ++ lines)) pieces := by
  induction lines with
  | nil =>
      refine ⟨⟨[], .nil⟩, fun opening body opens inside => ?_⟩
      rw [List.append_nil]
      exact ⟨_, .openBlock opens inside⟩
  | cons line lines ih =>
      rcases ih with ⟨⟨pieces, rest⟩, within⟩
      by_cases fence : IsFence line
      · refine ⟨within line [] fence (by simp), fun opening body opens inside => ?_⟩
        exact ⟨_, .block opens inside fence rest⟩
      · rcases exists_isPiece fence with ⟨piece, isPiece⟩
        refine ⟨⟨_, .line isPiece rest⟩, fun opening body opens inside => ?_⟩
        have longer : ∀ other ∈ body ++ [line], ¬ IsFence other :=
          List.forall_mem_append.mpr ⟨inside, by simpa using fence⟩
        simpa using within opening (body ++ [line]) opens longer

theorem exists_consists (lines : List String) : ∃ pieces, Consists lines pieces :=
  (exists_consists_within lines).1

/-! ## Reading -/

namespace DocsPiece

/-- What is wrong with a piece, given whether it stands behind a parameter. -/
def fault? (expected : List String) (behindParam : Bool) : DocsPiece → Option DocsError
  | .param name _ => if expected.contains name then none else some (.unknownParam name expected)
  | .part tag _ _ => if behindParam then some (.tagAfterParam tag) else none
  | .code _ => if behindParam then some .codeAfterParam else none
  | .hidden => none
  | .prose _ => none

def isParam : DocsPiece → Bool
  | .param .. => true
  | _ => false

/-- What is wrong with the first piece that is not in order. -/
def firstFault? (expected : List String) : Bool → List DocsPiece → Option DocsError
  | _, [] => none
  | behindParam, piece :: rest =>
    match piece.fault? expected behindParam with
    | some error => some error
    | none => firstFault? expected (behindParam || piece.isParam) rest

end DocsPiece

namespace DocsDraft

/-- Adds a piece that is in order. -/
def take (draft : DocsDraft) : DocsPiece → DocsDraft
  | .param name text => { draft with params := (name, linesOf text) :: draft.params }
  | .part _ label text => { draft with finished := draft.parts, label, lines := linesOf text }
  | .hidden => draft
  | .prose text => draft.addProse text
  | .code lines =>
    { draft with finished := draft.parts ++ [.code lines], label := none, lines := [] }

/-- Reads a piece. -/
def readPiece (expected : List String) (draft : DocsDraft) (piece : DocsPiece) :
    Except DocsError DocsDraft :=
  match piece.fault? expected (!draft.params.isEmpty) with
  | some error => .error error
  | none => .ok (draft.take piece)

variable {expected : List String} {draft : DocsDraft}

theorem addProse_code (text : String) : (draft.addProse text).code = draft.code := by
  rw [addProse]
  split <;> rfl

theorem take_code (piece : DocsPiece) : (draft.take piece).code = draft.code := by
  cases piece with
  | prose text => exact addProse_code text
  | param name text => rfl
  | part tag label text => rfl
  | hidden => rfl
  | code lines => rfl

theorem take_params (draft : DocsDraft) (piece : DocsPiece) :
    (!(draft.take piece).params.isEmpty) = (!draft.params.isEmpty || piece.isParam) := by
  cases piece with
  | prose text =>
      rw [take, addProse]
      cases draft.params <;> simp [DocsPiece.isParam, *]
  | param name text => simp [take, DocsPiece.isParam]
  | part tag label text => simp [take, DocsPiece.isParam]
  | hidden => simp [take, DocsPiece.isParam]
  | code lines => simp [take, DocsPiece.isParam]

/-- What a line with a tag says. -/
def lineOfTag (line rest tag : String) : DocsLine :=
  match tag with
  | "param" => .param (splitField rest).1 (splitField rest).2
  | "brief" => .part tag none rest
  | "note" => .part tag (some .note) rest
  | "warning" => .part tag (some .warning) rest
  | "deprecated" => .part tag (some .deprecated) rest
  | "private" => .hidden
  | _ => .prose line

theorem ofText_tagged {line tag rest : String} (tagged : Tagged line tag rest) :
    DocsLine.ofText line = lineOfTag line rest tag := by
  have notFence : ¬ Text.startsWith line "```" = true :=
    fun starts => tagged.not_fence (startsWith_fence_iff.mp starts)
  rcases tagged with ⟨tail, isLine, isField⟩
  rw [DocsLine.ofText, if_neg notFence, Text.dropHead?_eq_some_iff.mpr isLine]
  simp only [isField.splitField_eq]
  rfl

/-- A line without a tag that has a meaning is prose. -/
theorem ofText_unknown {line : String} (notFence : Text.startsWith line "```" = false)
    (unknown : ∀ tag rest, Tagged line tag rest → tag ∉ knownTags) :
    DocsLine.ofText line = .prose line := by
  cases found : Text.dropHead? line "@" with
  | none => rw [DocsLine.ofText, if_neg (Bool.eq_false_iff.mp notFence), found]
  | some tail =>
      have tagged : Tagged line (splitField tail).1 (splitField tail).2 :=
        ⟨tail, Text.dropHead?_eq_some_iff.mp found, firstField_splitField tail⟩
      have notKnown := unknown _ _ tagged
      simp only [knownTags, summaryTags, List.map_cons, List.map_nil, List.mem_cons,
        List.not_mem_nil, or_false, not_or] at notKnown
      rcases notKnown with ⟨notParam, notPrivate, notBrief, notNote, notWarning, notDeprecated⟩
      rw [ofText_tagged tagged, lineOfTag] <;> assumption

/-- Outside code blocks, reading a line is reading the piece that it is. -/
theorem step_isPiece {line : String} {piece : DocsPiece} (isPiece : IsPiece line piece)
    (outside : draft.code = none) : step expected draft line = draft.readPiece expected piece := by
  have notFence : Text.startsWith line "```" = false :=
    Bool.eq_false_iff.mpr fun starts => isPiece.not_fence (startsWith_fence_iff.mp starts)
  have split : step expected draft line = draft.read expected (.ofText line) := by
    rw [step, outside]
  rw [split, readPiece]
  cases isPiece with
  | param tagged named =>
      rw [ofText_tagged tagged]
      simp only [lineOfTag, named.splitField_eq, read, DocsPiece.fault?]
      cases expected.contains _ <;> rfl
  | part tagged known =>
      rw [ofText_tagged tagged]
      simp only [summaryTags, List.mem_cons, List.not_mem_nil, or_false, Prod.mk.injEq] at known
      rcases known with ⟨rfl, rfl⟩ | ⟨rfl, rfl⟩ | ⟨rfl, rfl⟩ | ⟨rfl, rfl⟩ <;>
        simp only [lineOfTag, read, DocsPiece.fault?] <;>
        cases draft.params.isEmpty <;> rfl
  | hidden tagged =>
      rw [ofText_tagged tagged]
      rfl
  | prose _ unknown =>
      rw [ofText_unknown notFence unknown]
      rfl

/-- Inside a code block, lines are kept up to the next fence. -/
theorem foldlM_step_inside {code body : List String} (open' : draft.code = some code)
    (inside : ∀ line ∈ body, ¬ IsFence line) :
    body.foldlM (step expected) draft = .ok { draft with code := some (code ++ body) } := by
  induction body generalizing draft code with
  | nil =>
      rw [List.append_nil, ← open']
      rfl
  | cons line body ih =>
      rcases List.forall_mem_cons.mp inside with ⟨notFence, others⟩
      have kept : step expected draft line = .ok { draft with code := some (code ++ [line]) } := by
        rw [step, open']
        exact if_neg fun starts => notFence (startsWith_fence_iff.mp starts)
      rw [List.foldlM_cons, kept]
      refine (ih rfl others).trans ?_
      rw [List.append_assoc]
      rfl

/-- A fence opens a code block, unless that is not in order. -/
theorem foldlM_step_open {opening : String} {body : List String} (outside : draft.code = none)
    (opens : IsFence opening) (inside : ∀ line ∈ body, ¬ IsFence line) :
    (opening :: body).foldlM (step expected) draft =
      match (DocsPiece.code body).fault? expected (!draft.params.isEmpty) with
      | some error => .error error
      | none => .ok { draft with code := some body } := by
  have isFence : DocsLine.ofText opening = .fence := by
    rw [DocsLine.ofText, if_pos (startsWith_fence_iff.mpr opens)]
  have split : step expected draft opening = draft.read expected .fence := by
    rw [step, outside, isFence]
  rw [List.foldlM_cons, split, read, DocsPiece.fault?]
  cases draft.params.isEmpty with
  | false => rfl
  | true =>
      have opened : ({ draft with code := some [] } : DocsDraft).code = some [] := rfl
      exact foldlM_step_inside opened inside

theorem closeCode_take (outside : draft.code = none) (body : List String) :
    closeCode { draft with code := some body } = draft.take (.code body) := by
  rcases draft with ⟨finished, label, lines, code, params⟩
  cases outside
  rfl

theorem closeCode_outside (outside : draft.code = none) : draft.closeCode = draft := by
  rw [closeCode, outside]

/-- Reading lines is reading the pieces that they consist of. -/
theorem foldlM_step_consists {lines : List String} {pieces : List DocsPiece}
    (consists : Consists lines pieces) (outside : draft.code = none) :
    (lines.foldlM (step expected) draft).map closeCode =
      pieces.foldlM (readPiece expected) draft := by
  induction consists generalizing draft with
  | nil =>
      rw [List.foldlM_nil, List.foldlM_nil]
      exact congrArg Except.ok (closeCode_outside outside)
  | @line line piece lines pieces isPiece rest ih =>
      rw [List.foldlM_cons, List.foldlM_cons, step_isPiece isPiece outside, readPiece]
      cases piece.fault? expected (!draft.params.isEmpty) with
      | some error => rfl
      | none => exact ih ((take_code piece).trans outside)
  | @block opening closing body lines pieces opens inside closes rest ih =>
      have closed : step expected { draft with code := some body } closing =
          .ok (draft.take (.code body)) := by
        rw [← closeCode_take outside]
        exact if_pos (startsWith_fence_iff.mpr closes)
      rw [← List.cons_append, List.foldlM_append, foldlM_step_open outside opens inside,
        List.foldlM_cons, readPiece]
      cases (DocsPiece.code body).fault? expected (!draft.params.isEmpty) with
      | some error => rfl
      | none =>
          show ((closing :: lines).foldlM (step expected) { draft with code := some body }).map
            closeCode = _
          rw [List.foldlM_cons, closed]
          exact ih ((take_code (.code body)).trans outside)
  | @openBlock opening body opens inside =>
      rw [foldlM_step_open outside opens inside, List.foldlM_cons, readPiece]
      cases (DocsPiece.code body).fault? expected (!draft.params.isEmpty) with
      | some error => rfl
      | none => exact congrArg Except.ok (closeCode_take outside body)

/-- Reading pieces fails with the first one that is not in order. -/
theorem foldlM_readPiece (pieces : List DocsPiece) :
    pieces.foldlM (readPiece expected) draft =
      match DocsPiece.firstFault? expected (!draft.params.isEmpty) pieces with
      | some error => .error error
      | none => .ok (pieces.foldl take draft) := by
  induction pieces generalizing draft with
  | nil => rfl
  | cons piece rest ih =>
      rw [List.foldlM_cons, DocsPiece.firstFault?, readPiece]
      cases piece.fault? expected (!draft.params.isEmpty) with
      | some error => rfl
      | none =>
          rw [← take_params draft piece]
          exact ih

end DocsDraft

/-! ## Empty documentation -/

theorem IsPiece.of_empty {piece : DocsPiece} (isPiece : IsPiece "" piece) : piece = .prose "" := by
  cases isPiece with
  | param tagged named => exact absurd tagged (not_tagged (by decide))
  | part tagged known => exact absurd tagged (not_tagged (by decide))
  | hidden tagged => exact absurd tagged (not_tagged (by decide))
  | prose notFence unknown => rfl

theorem not_isFence_empty : ¬ IsFence "" := by
  rintro ⟨rest, isEmpty⟩
  have chars := congrArg String.toList isEmpty
  simp at chars

/-- Empty lines are in order. -/
theorem Consists.firstFault?_empty {expected lines : List String} {pieces : List DocsPiece}
    {behindParam : Bool} (consists : Consists lines pieces) (empty : ∀ line ∈ lines, line = "") :
    DocsPiece.firstFault? expected behindParam pieces = none := by
  induction consists generalizing behindParam with
  | nil => rfl
  | @line line piece lines pieces isPiece rest ih =>
      rcases List.forall_mem_cons.mp empty with ⟨rfl, others⟩
      rw [isPiece.of_empty]
      exact ih others
  | block opens inside closes rest ih =>
      rcases List.forall_mem_cons.mp empty with ⟨rfl, others⟩
      exact absurd opens not_isFence_empty
  | openBlock opens inside =>
      rcases List.forall_mem_cons.mp empty with ⟨rfl, others⟩
      exact absurd opens not_isFence_empty

/-- Documentation is rendered unless one of its pieces is not in order. -/
theorem xmlDocs_consists {expected docs : List String} {pieces : List DocsPiece}
    (consists : Consists (docs.map Text.trim) pieces) :
    xmlDocs expected docs =
      match DocsPiece.firstFault? expected false pieces with
      | some error => .error error
      | none =>
        .ok (if (docs.map Text.trim).all String.isEmpty then []
          else (pieces.foldl DocsDraft.take {}).xml) := by
  rw [xmlDocs]
  split
  · rename_i empty
    have each : ∀ line ∈ docs.map Text.trim, line = "" := by simpa using empty
    rw [consists.firstFault?_empty each]
  · have read : pieces.foldlM (DocsDraft.readPiece expected) {} =
        match DocsPiece.firstFault? expected false pieces with
        | some error => .error error
        | none => .ok (pieces.foldl DocsDraft.take {}) := DocsDraft.foldlM_readPiece pieces
    rw [DocsDraft.ofLines, DocsDraft.foldlM_step_consists consists rfl, read]
    cases DocsPiece.firstFault? expected false pieces with
    | some error => rfl
    | none => rfl

end HeaderBindings.Managed
