import HeaderBindings.Proofs.Binding.DocsOrder
import HeaderBindings.Proofs.Xml.Content

/-!
# Rendered documentation

Documentation is rendered as one summary, with labelled paragraphs and code in
it, and one element for each parameter.  The text of the summary and of each
parameter is that of the pieces it is made from, with every special character
written as an entity.  So the lines always consist of balanced elements and have
one reading; they are well-formed exactly if no character in the text is one that
XML excludes altogether, since such characters are passed on as they are.
-/

namespace HeaderBindings

/-! ## Entities -/

/-- What stands for a character in XML. -/
def Xml.escapeChar (c : Char) : List Char :=
  if c = '&' then "&amp;".toList
  else if c = '<' then "&lt;".toList
  else if c = '>' then "&gt;".toList
  else [c]

theorem Text.replaceFrom_single (c : Char) (replacement text : List Char) :
    Text.replaceFrom [c] replacement 0 text =
      text.flatMap fun d => if d = c then replacement else [d] := by
  induction text with
  | nil => rfl
  | cons d text ih =>
      rw [Text.replaceFrom, List.flatMap_cons]
      by_cases same : d = c
      · rw [if_pos (by simp [same]), if_pos same]
        exact congrArg _ ih
      · rw [if_neg (by simp [Ne.symm same]), if_neg same, ih]
        rfl

theorem Managed.toList_escapeXml (text : String) :
    (Managed.escapeXml text).toList = text.toList.flatMap Xml.escapeChar := by
  have single (text : String) (c : Char) (replacement : String) :
      (Text.replaceAll text (String.singleton c) replacement).toList =
        text.toList.flatMap fun d => if d = c then replacement.toList else [d] := by
    rw [Text.replaceAll, String.toList_ofList, String.toList_singleton, Text.replaceFrom_single]
  rw [Managed.escapeXml]
  show (Text.replaceAll (Text.replaceAll (Text.replaceAll text (String.singleton '&') "&amp;")
    (String.singleton '<') "&lt;") (String.singleton '>') "&gt;").toList = _
  rw [single, single, single, List.flatMap_assoc, List.flatMap_assoc]
  apply List.flatMap_congr
  intro c _
  rw [Xml.escapeChar]
  by_cases ampersand : c = '&'
  · rw [if_pos ampersand, if_pos ampersand]
    decide
  · rw [if_neg ampersand, if_neg ampersand]
    by_cases less : c = '<'
    · subst less
      decide
    · by_cases greater : c = '>'
      · subst greater
        decide
      · simp [less, greater]

namespace Xml

/-- A text whose special characters are written as entities is read as the text. -/
theorem content_escape (text : List Char) :
    Content (text.flatMap escapeChar) (text.map .char) := by
  induction text with
  | nil => exact .nil
  | cons c text ih =>
      rw [List.flatMap_cons, List.map_cons, escapeChar]
      split
      · rename_i ampersand
        subst ampersand
        have known : ("amp", '&') ∈ entities := by decide
        exact .entity known ih
      · split
        · rename_i less
          subst less
          have known : ("lt", '<') ∈ entities := by decide
          exact .entity known ih
        · split
          · rename_i greater
            subst greater
            have known : ("gt", '>') ∈ entities := by decide
            exact .entity known ih
          · rename_i notAmpersand notLess notGreater
            exact .char (by simp [markup, notAmpersand, notLess, notGreater]) ih

end Xml

namespace Managed

open Xml

/-! ## What is rendered -/

namespace DocsPiece

/-- Whether a piece goes on with what stands before it. -/
def goesOn : DocsPiece → Bool
  | .hidden => true
  | .prose _ => true
  | _ => false

def prose? : DocsPiece → Option String
  | .prose text => some text
  | _ => none

end DocsPiece

/-- The lines of prose up to the next piece of another kind. -/
def continuation (pieces : List DocsPiece) : List String :=
  (pieces.takeWhile DocsPiece.goesOn).filterMap DocsPiece.prose?

section Continuation

variable {pieces : List DocsPiece}

@[simp]
theorem continuation_prose {text : String} :
    continuation (.prose text :: pieces) = text :: continuation pieces :=
  rfl

@[simp]
theorem continuation_param {name text : String} : continuation (.param name text :: pieces) = [] :=
  rfl

@[simp]
theorem continuation_part {tag text : String} {label : Option DocsLabel} :
    continuation (.part tag label text :: pieces) = [] :=
  rfl

@[simp]
theorem continuation_code {lines : List String} : continuation (.code lines :: pieces) = [] :=
  rfl

end Continuation

/-- The lines that are not empty. -/
def nonempty (lines : List String) : List String :=
  lines.filter fun line => !line.isEmpty

/-- The blocks that the pieces start. -/
def startedBlocks : List DocsPiece → List DocsBlock
  | [] => []
  | .part _ label text :: rest =>
    .prose label (DocsDraft.linesOf text ++ continuation rest) :: startedBlocks rest
  | .code lines :: rest => .code lines :: .prose none (continuation rest) :: startedBlocks rest
  | .param _ _ :: rest => startedBlocks rest
  | .hidden :: rest => startedBlocks rest
  | .prose _ :: rest => startedBlocks rest

/-- The blocks of the summary. -/
def summaryBlocks (pieces : List DocsPiece) : List DocsBlock :=
  .prose none (continuation pieces) :: startedBlocks pieces

/-- The parameters, each with its own text and the lines of prose up to the next parameter. -/
def paramLines : List DocsPiece → List (String × List String)
  | [] => []
  | .param name text :: rest =>
    (name, nonempty (text :: continuation rest)) :: paramLines rest
  | .part _ _ _ :: rest => paramLines rest
  | .code _ :: rest => paramLines rest
  | .hidden :: rest => paramLines rest
  | .prose _ :: rest => paramLines rest

/-- Lines as characters. -/
def textNodes (lines : List String) : List Xml.Node :=
  (lines.flatMap String.toList).map .char

/-- The nodes of a block. -/
def DocsBlock.nodes : DocsBlock → List Xml.Node
  | .prose none lines => textNodes lines
  | .prose (some label) lines =>
    [.element "para" [] (textNodes
      (if lines.all String.isEmpty then [label.text] else (label.text ++ ": ") :: lines))]
  | .code lines => [.element "code" [] (textNodes lines)]

/-- The element of a parameter. -/
def paramNode (param : String × List String) : Xml.Node :=
  .element "param" [("name", param.1)] (textNodes [Text.joinWith " " param.2])

/-- The elements of documentation. -/
def docsNodes (pieces : List DocsPiece) : List Xml.Node :=
  .element "summary" [] ((summaryBlocks pieces).flatMap DocsBlock.nodes) ::
    (paramLines pieces).map paramNode

/-! ## From the pieces to the blocks -/

namespace DocsDraft

variable {expected : List String} {draft : DocsDraft}

theorem linesOf_eq_nonempty (text : String) : linesOf text = nonempty [text] := by
  rw [linesOf, nonempty]
  cases empty : text.isEmpty <;> simp [empty]

theorem nonempty_cons (text : String) (lines : List String) :
    nonempty (text :: lines) = linesOf text ++ nonempty lines := by
  rw [linesOf_eq_nonempty, nonempty, nonempty, nonempty, ← List.filter_append,
    List.singleton_append]

/-- Behind a parameter, pieces that are in order belong to parameters. -/
theorem foldl_take_behind {name : String} {lines : List String}
    {older : List (String × List String)} {pieces : List DocsPiece}
    (params : draft.params = (name, lines) :: older)
    (inOrder : DocsPiece.firstFault? expected true pieces = none) :
    (pieces.foldl take draft).parts = draft.parts ∧
      (pieces.foldl take draft).params.reverse =
        older.reverse ++ (name, lines ++ nonempty (continuation pieces)) :: paramLines pieces ∧
      startedBlocks pieces = [] := by
  induction pieces generalizing draft name lines older with
  | nil => simp [params, continuation, nonempty, paramLines, startedBlocks]
  | cons piece rest ih =>
      rw [DocsPiece.firstFault?] at inOrder
      split at inOrder
      · cases inOrder
      · rename_i noFault
        rw [Bool.true_or] at inOrder
        cases piece with
        | part tag label text => cases noFault
        | code body => cases noFault
        | hidden => exact ih params inOrder
        | param another text =>
            have next : (draft.take (.param another text)).params =
                (another, linesOf text) :: draft.params := rfl
            obtain ⟨parts, reversed, started⟩ := ih next inOrder
            refine ⟨parts, ?_, started⟩
            rw [List.foldl_cons, reversed, params, paramLines, nonempty_cons, continuation_param]
            simp [nonempty]
        | prose text =>
            have taken : draft.take (.prose text) =
                { draft with params := (name, lines ++ linesOf text) :: older } := by
              rw [take, addProse, params]
            have next : (draft.take (.prose text)).params =
                (name, lines ++ linesOf text) :: older := by rw [taken]
            obtain ⟨parts, reversed, started⟩ := ih next inOrder
            refine ⟨parts.trans (by rw [taken]; rfl), ?_, started⟩
            rw [List.foldl_cons, reversed, continuation_prose, nonempty_cons, List.append_assoc]
            rfl

/-- Pieces that are in order give the blocks of the summary and then the parameters. -/
theorem foldl_take {pieces : List DocsPiece} (noParams : draft.params = [])
    (inOrder : DocsPiece.firstFault? expected false pieces = none) :
    (pieces.foldl take draft).parts =
        draft.finished ++ .prose draft.label (draft.lines ++ continuation pieces) ::
          startedBlocks pieces ∧
      (pieces.foldl take draft).params.reverse = paramLines pieces := by
  induction pieces generalizing draft with
  | nil => simp [parts, noParams, continuation, paramLines, startedBlocks]
  | cons piece rest ih =>
      rw [DocsPiece.firstFault?] at inOrder
      split at inOrder
      · cases inOrder
      · rw [Bool.false_or] at inOrder
        rw [List.foldl_cons]
        cases piece with
        | param name text =>
            have next : (draft.take (.param name text)).params =
                (name, linesOf text) :: draft.params := rfl
            obtain ⟨inParts, reversed, started⟩ := foldl_take_behind next inOrder
            rw [inParts, reversed, startedBlocks, started, paramLines, nonempty_cons, noParams,
              continuation_param, List.append_nil]
            exact ⟨rfl, rfl⟩
        | part tag label text =>
            have next : (draft.take (.part tag label text)).params = [] := noParams
            obtain ⟨inParts, reversed⟩ := ih next inOrder
            refine ⟨inParts.trans ?_, reversed⟩
            rw [startedBlocks, continuation_part, List.append_nil, take, parts, List.append_assoc]
            rfl
        | hidden => exact ih noParams inOrder
        | prose text =>
            have taken : draft.take (.prose text) =
                { draft with lines := draft.lines ++ [text] } := by
              rw [take, addProse, noParams]
            have next : (draft.take (.prose text)).params = [] := by
              rw [taken]
              exact noParams
            obtain ⟨inParts, reversed⟩ := ih next inOrder
            refine ⟨inParts.trans ?_, reversed⟩
            rw [taken, continuation_prose, List.append_assoc]
            rfl
        | code body =>
            have next : (draft.take (.code body)).params = [] := noParams
            obtain ⟨inParts, reversed⟩ := ih next inOrder
            refine ⟨inParts.trans ?_, reversed⟩
            rw [startedBlocks, continuation_code, List.append_nil, take, parts]
            simp

end DocsDraft

/-! ## From the blocks to the text -/

theorem flatMap_trimEmpty (lines : List String) :
    (trimEmpty lines).flatMap String.toList = lines.flatMap String.toList := by
  have silent {lines : List String} (empty : ∀ line ∈ lines, line.isEmpty = true) :
      lines.flatMap String.toList = [] := by
    rw [List.flatMap_eq_nil_iff]
    intro line member
    rw [String.isEmpty_iff.mp (empty line member)]
    rfl
  show ((lines.dropWhile String.isEmpty).rdropWhile String.isEmpty).flatMap String.toList = _
  calc
    ((lines.dropWhile String.isEmpty).rdropWhile String.isEmpty).flatMap String.toList
      = (lines.dropWhile String.isEmpty).flatMap String.toList := by
        conv_rhs => rw [← List.rdropWhile_append_rtakeWhile (p := String.isEmpty)
          (l := lines.dropWhile String.isEmpty), List.flatMap_append,
          silent fun line member => List.mem_rtakeWhile_imp member, List.append_nil]
    _ = lines.flatMap String.toList := by
        conv_rhs => rw [← List.takeWhile_append_dropWhile (p := String.isEmpty) (l := lines),
          List.flatMap_append, silent fun line member => List.mem_takeWhile_imp member,
          List.nil_append]

theorem trimEmpty_eq_nil_iff (lines : List String) :
    trimEmpty lines = [] ↔ lines.all String.isEmpty = true := by
  show (lines.dropWhile String.isEmpty).rdropWhile String.isEmpty = [] ↔ _
  rw [List.rdropWhile_eq_nil_iff, List.all_eq_true]
  constructor
  · intro dropped
    rw [← List.dropWhile_eq_nil_iff]
    cases remaining : lines.dropWhile String.isEmpty with
    | nil => rfl
    | cons first rest =>
        have filled := List.head_dropWhile_not String.isEmpty (l := lines) (by simp [remaining])
        have empty := dropped first (by rw [remaining]; exact List.mem_cons_self)
        simp only [remaining, List.head_cons] at filled
        rw [empty] at filled
        cases filled
  · intro empty line member
    exact empty line ((List.dropWhile_sublist _).subset member)

theorem flatMap_escapeXml (lines : List String) :
    (lines.map escapeXml).flatMap String.toList =
      (lines.flatMap String.toList).flatMap escapeChar := by
  rw [List.flatMap_map, List.flatMap_assoc]
  exact List.flatMap_congr fun line _ => toList_escapeXml line

theorem flatMap_appendToLast (text line : String) (lines : List String) :
    (appendToLast text (line :: lines)).flatMap String.toList =
      (line :: lines).flatMap String.toList ++ text.toList := by
  induction lines generalizing line with
  | nil => simp [appendToLast]
  | cons next lines ih =>
      rw [appendToLast, List.flatMap_cons, ih, ← List.append_assoc, ← List.flatMap_cons]

/-- The lines of a block are read as its nodes. -/
theorem DocsBlock.content_xml (block : DocsBlock) :
    Content (block.xml.flatMap String.toList) block.nodes := by
  cases block with
  | code lines =>
      have isName : IsName "code" := isName_of_all (by decide) (by decide)
      have content := (content_escape (lines.flatMap String.toList)).tagged isName
      rw [DocsBlock.xml, List.cons_append, List.flatMap_cons, List.flatMap_append,
        flatMap_escapeXml]
      exact content
  | prose label lines =>
      cases label with
      | none =>
          rw [DocsBlock.xml, flatMap_escapeXml, flatMap_trimEmpty]
          exact content_escape _
      | some label =>
          have plain : ∀ c ∈ label.text.toList, c ∉ markup :=
            notMem_of_all (by cases label <;> decide)
          have isName : IsName "para" := isName_of_all (by decide) (by decide)
          have separated : ∀ c ∈ (label.text ++ ": ").toList, c ∉ markup :=
            notMem_of_all (by cases label <;> decide)
          rw [DocsBlock.xml, DocsBlock.nodes]
          cases escaped : (trimEmpty lines).map escapeXml with
          | nil =>
              have empty := (trimEmpty_eq_nil_iff lines).mp (List.map_eq_nil_iff.mp escaped)
              have content := (content_plain plain).tagged isName
              rw [if_pos empty]
              show Content ([("<para>" ++ label.text ++ "</para>")].flatMap String.toList) _
              simpa [textNodes] using content
          | cons first rest =>
              have notEmpty : ¬ lines.all String.isEmpty = true := by
                rw [← trimEmpty_eq_nil_iff]
                intro empty
                rw [empty] at escaped
                cases escaped
              have text : first.toList ++ rest.flatMap String.toList =
                  (lines.flatMap String.toList).flatMap escapeChar := by
                rw [← List.flatMap_cons, ← escaped, flatMap_escapeXml, flatMap_trimEmpty]
              have content := ((content_plain separated).append
                (content_escape (lines.flatMap String.toList))).tagged isName
              rw [← text] at content
              rw [if_neg notEmpty, flatMap_appendToLast]
              show Content ((("<para>" ++ label.text ++ ": " ++ first) :: rest).flatMap
                String.toList ++ "</para>".toList) _
              simpa [textNodes] using content

/-- The line of a parameter is read as its element. -/
theorem content_paramXml {param : String × List String}
    (plain : ∀ c ∈ param.1.toList, c ∉ specials) :
    Content (paramXml param).toList [paramNode param] := by
  have given : Attributes (' ' :: ("name".toList ++ '=' :: '"' :: (param.1.toList ++ '"' :: [])))
      [("name", param.1)] :=
    .cons (isName_of_all (by decide) (by decide)) plain (by simp) .nil
  have isName : IsName "param" := isName_of_all (by decide) (by decide)
  have content := Content.element isName given
    (content_escape (Text.joinWith " " param.2).toList) .nil
  show Content ("<param name=\"" ++ param.1 ++ "\">" ++ escapeXml (Text.joinWith " " param.2) ++
    "</param>").toList _
  simp only [String.toList_append, toList_escapeXml, paramNode, textNodes, List.flatMap_singleton]
  simpa using content

theorem content_flatMap {α : Type} {lines : α → List String} {nodes : α → List Xml.Node}
    {items : List α}
    (each : ∀ item ∈ items, Content ((lines item).flatMap String.toList) (nodes item)) :
    Content ((items.flatMap lines).flatMap String.toList) (items.flatMap nodes) := by
  induction items with
  | nil => exact .nil
  | cons item items ih =>
      rcases List.forall_mem_cons.mp each with ⟨here, later⟩
      rw [List.flatMap_cons, List.flatMap_append, List.flatMap_cons]
      exact here.append (ih later)

/-! ## The document -/

/-- A character, or a paragraph or code that holds nothing but characters. -/
def IsFlat (node : Xml.Node) : Prop :=
  (∃ c, node = .char c) ∨
    ∃ tag ∈ ["para", "code"], ∃ text : List Char, node = .element tag [] (text.map .char)

/-- Lines that consist of the elements of some pieces, however they are read. -/
structure Renders (lines : List String) (pieces : List DocsPiece) : Prop where
  reading : ∀ nodes, Content (lines.flatMap String.toList) nodes ↔ nodes = docsNodes pieces
  flat : ∀ node ∈ (summaryBlocks pieces).flatMap DocsBlock.nodes, IsFlat node
  /-- Nothing but an excluded character in the text keeps the lines from being well-formed. -/
  wellFormed : WellFormed (lines.flatMap String.toList) ↔
    ∀ node ∈ docsNodes pieces, ∀ c, node.Holds c → isChar c = true

theorem textNodes_flat {lines : List String} : ∀ node ∈ textNodes lines, IsFlat node := by
  intro node member
  rcases List.mem_map.mp member with ⟨c, _, rfl⟩
  exact .inl ⟨c, rfl⟩

theorem DocsBlock.nodes_flat (block : DocsBlock) : ∀ node ∈ block.nodes, IsFlat node := by
  cases block with
  | code lines =>
      intro node member
      rw [DocsBlock.nodes, List.mem_singleton] at member
      exact .inr ⟨"code", by decide, _, member⟩
  | prose label lines =>
      cases label with
      | none => exact textNodes_flat
      | some label =>
          intro node member
          rw [DocsBlock.nodes, List.mem_singleton] at member
          exact .inr ⟨"para", by decide, _, member⟩

/-- The parameters of pieces that are in order are among the expected ones. -/
theorem paramLines_expected {expected : List String} {behindParam : Bool} {pieces : List DocsPiece}
    (inOrder : DocsPiece.firstFault? expected behindParam pieces = none) :
    ∀ param ∈ paramLines pieces, param.1 ∈ expected := by
  induction pieces generalizing behindParam with
  | nil => simp [paramLines]
  | cons piece rest ih =>
      rw [DocsPiece.firstFault?] at inOrder
      split at inOrder
      · cases inOrder
      · rename_i noFault
        cases piece with
        | param name text =>
            rw [paramLines, List.forall_mem_cons]
            refine ⟨?_, ih inOrder⟩
            by_contra unknown
            rw [DocsPiece.fault?, if_neg fun known => unknown (List.contains_iff_mem.mp known)]
              at noFault
            cases noFault
        | part tag label text => exact ih inOrder
        | code lines => exact ih inOrder
        | hidden => exact ih inOrder
        | prose text => exact ih inOrder

/-- The lines of pieces that are in order are read as their elements. -/
theorem content_docs {expected : List String} {pieces : List DocsPiece}
    (plain : ∀ name ∈ expected, ∀ c ∈ name.toList, c ∉ specials)
    (inOrder : DocsPiece.firstFault? expected false pieces = none) :
    Content ((pieces.foldl DocsDraft.take {}).xml.flatMap String.toList) (docsNodes pieces) := by
  have noParams : ({} : DocsDraft).params = [] := rfl
  obtain ⟨parts, params⟩ := DocsDraft.foldl_take noParams inOrder
  have isName : IsName "summary" := isName_of_all (by decide) (by decide)
  have blocks : Content (((summaryBlocks pieces).flatMap DocsBlock.xml).flatMap String.toList)
      ((summaryBlocks pieces).flatMap DocsBlock.nodes) :=
    content_flatMap fun block _ => block.content_xml
  have summary := blocks.tagged isName
  have each : Content (((paramLines pieces).flatMap fun param => [paramXml param]).flatMap
      String.toList) ((paramLines pieces).flatMap fun param => [paramNode param]) :=
    content_flatMap fun param member => by
      rw [List.flatMap_singleton]
      exact content_paramXml (plain _ (paramLines_expected inOrder param member))
  have whole := summary.append each
  rw [← List.map_eq_flatMap, ← List.map_eq_flatMap] at whole
  rw [DocsDraft.xml, parts, params, docsNodes]
  simpa [summaryBlocks] using whole

/--
Documentation that is rendered consists of a summary and one element for each
parameter, in their order, with the text of the pieces.  Paragraphs and code are
not nested, and what is special in XML is written by entities, so that there is
no other reading.
-/
theorem xmlDocs_renders {expected docs lines : List String}
    (plain : ∀ name ∈ expected, ∀ c ∈ name.toList, c ∉ specials)
    (rendered : xmlDocs expected docs = .ok lines) (notEmpty : lines ≠ []) :
    (∃ pieces, Consists (docs.map Text.trim) pieces) ∧
      ∀ pieces, Consists (docs.map Text.trim) pieces → Renders lines pieces := by
  refine ⟨exists_consists _, fun pieces consists => ?_⟩
  rw [xmlDocs_consists consists] at rendered
  cases inOrder : DocsPiece.firstFault? expected false pieces with
  | some error =>
      rw [inOrder] at rendered
      cases rendered
  | none =>
      rw [inOrder] at rendered
      have isXml : (pieces.foldl DocsDraft.take {}).xml = lines := by
        have chosen := Except.ok.inj rendered
        split at chosen
        · exact absurd chosen.symm notEmpty
        · exact chosen
      have content := content_docs plain inOrder
      rw [isXml] at content
      constructor
      case reading =>
        exact fun nodes => ⟨fun other => other.unique content, fun same => same ▸ content⟩
      case flat =>
        intro node member
        rcases List.mem_flatMap.mp member with ⟨block, _, inBlock⟩
        exact block.nodes_flat node inBlock
      case wellFormed =>
        rw [WellFormed, content.forall_isChar_iff]
        exact and_iff_right ⟨_, content⟩

/-- Characters that XML excludes are passed on, such as the one that starts a terminal sequence. -/
theorem xmlDocs_not_always_wellFormed :
    ¬ ∀ expected docs lines, (∀ name ∈ expected, ∀ c ∈ name.toList, c ∉ specials) →
      xmlDocs expected docs = .ok lines → lines ≠ [] →
      WellFormed (lines.flatMap String.toList) := by
  intro always
  have wellFormed := always [] ["\x1b[1mBold"] ["<summary>", "\x1b[1mBold", "</summary>"]
    (by simp) (by decide) (by simp)
  exact absurd (wellFormed.2 '\x1b' (by decide)) (by decide)

/-- Documentation with special characters in text and code. -/
def limitDocs : List String :=
  ["@note Not for <large> values", "```", "a && b", "```", "@param limit The limit", "",
    "in metres"]

/-- The pieces of `limitDocs`. -/
def limitPieces : List DocsPiece :=
  [.part "note" (some .note) "Not for <large> values", .code ["a && b"],
    .param "limit" "The limit", .prose "", .prose "in metres"]

theorem limitDocs_consists : Consists (limitDocs.map Text.trim) limitPieces := by
  have lines : limitDocs.map Text.trim = limitDocs := by decide
  have prose {line : String} (untagged : Text.startsWith line "@" = false)
      (notFence : Text.startsWith line "```" = false) : IsPiece line (.prose line) :=
    .prose (fun fence => Bool.eq_false_iff.mp notFence (startsWith_fence_iff.mpr fence))
      fun _ _ tagged => absurd tagged (not_tagged untagged)
  have fence : IsFence "```" := startsWith_fence_iff.mp (by decide)
  have code : ∀ line ∈ ["a && b"], ¬ IsFence line := by
    simp only [List.forall_mem_singleton, ← startsWith_fence_iff]
    decide
  rw [lines]
  have note : Tagged "@note Not for <large> values" "note" "Not for <large> values" :=
    ⟨_, rfl, firstField_splitField "note Not for <large> values"⟩
  have param : Tagged "@param limit The limit" "param" "limit The limit" :=
    ⟨_, rfl, firstField_splitField "param limit The limit"⟩
  have named : FirstField "limit The limit" "limit" "The limit" :=
    firstField_splitField "limit The limit"
  exact .line (.part note (by decide))
    (.block fence code fence
      (.line (.param param named)
        (.line (prose (by decide) (by decide)) (.line (prose (by decide) (by decide)) .nil))))

theorem limitDocs_rendered :
    xmlDocs ["limit"] limitDocs =
        .ok ["<summary>", "<para>Note: Not for &lt;large&gt; values</para>", "<code>",
          "a &amp;&amp; b", "</code>", "</summary>",
          "<param name=\"limit\">The limit in metres</param>"] ∧
      Renders ["<summary>", "<para>Note: Not for &lt;large&gt; values</para>", "<code>",
          "a &amp;&amp; b", "</code>", "</summary>",
          "<param name=\"limit\">The limit in metres</param>"] limitPieces := by
  have rendered : xmlDocs ["limit"] limitDocs =
      .ok ["<summary>", "<para>Note: Not for &lt;large&gt; values</para>", "<code>",
          "a &amp;&amp; b", "</code>", "</summary>",
          "<param name=\"limit\">The limit in metres</param>"] := by decide
  have plain : ∀ name ∈ ["limit"], ∀ c ∈ name.toList, c ∉ specials := by
    rw [List.forall_mem_singleton]
    exact notMem_of_all (by decide)
  exact ⟨rendered, (xmlDocs_renders plain rendered (by simp)).2 _ limitDocs_consists⟩

end Managed

end HeaderBindings
