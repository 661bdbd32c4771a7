import HeaderBindings.Binding.Exports
import HeaderBindings.Binding.Managed.Source
import HeaderBindings.Binding.Native.Header
import HeaderBindings.Proofs.Interface.WellFormed
import HeaderBindings.Proofs.Outcome
import HeaderBindings.Proofs.Text.Slice
import Mathlib.Data.List.Find

/-!
# Filled templates

A binding fills the marks of its template one after the other, each time in
lines that hold the blocks before it.  Read from the template alone, a block
takes the place of the first line that ends with its mark, and every other line
is kept.  The two agree when no line ends with two marks and no line of a block
ends with a later mark.  Both hold for every binding, whatever the interface
and the marker are: the names of the marks have no slash and end with a letter,
while the generated lines in front of other blocks end with punctuation.
-/

namespace HeaderBindings

open HeaderBindings.Binding

namespace Binding

/-! ## Templates read line by line -/

section Places

variable (marker : String) (blocks : List Block)

/-- Whether a line ends with the mark of a block. -/
def Block.ends (block : Block) (line : String) : Bool :=
  Text.endsWith line (mark marker block.name)

/-- Whether a line below others is the first one that ends with the mark of a block. -/
def Block.takes (above : List String) (line : String) (block : Block) : Bool :=
  block.ends marker line && !above.any (block.ends marker)

/-- Lines below others, with every block in the place of the first line that ends with its mark. -/
def replaced (above : List String) : List String → List String
  | [] => []
  | line :: below =>
    (match blocks.find? (Block.takes marker above line) with
      | some block => block.lines
      | none => [line]) ++ replaced (line :: above) below

/-- Whether no line ends with the mark of a block. -/
def Block.missing (lines : List String) (block : Block) : Bool :=
  !lines.any (block.ends marker)

/-- No line ends with the marks of two of the blocks. -/
def Apart : Prop :=
  blocks.Pairwise fun first second => ∀ line, ¬ (first.ends marker line ∧ second.ends marker line)

/-- No line of a block ends with the mark of a later one. -/
def Sealed : Prop :=
  blocks.Pairwise fun earlier later => ∀ line ∈ earlier.lines, later.ends marker line = false

end Places

section Filling

variable {marker : String} {blocks : List Block} {lines : List String}

theorem fillLines_cons (block : Block) (rest : List Block) :
    fillLines marker lines (block :: rest) =
      match insertAt? (mark marker block.name) block.lines lines with
      | none => .error ⟨mark marker block.name⟩
      | some filled => fillLines marker filled rest :=
  rfl

theorem insertAt?_append {front : List String} {block : Block}
    (free : ∀ line ∈ front, block.ends marker line = false) :
    insertAt? (mark marker block.name) block.lines (front ++ lines) =
      (insertAt? (mark marker block.name) block.lines lines).map (front ++ ·) := by
  induction front with
  | nil => simp
  | cons line front ih =>
      have here : Text.endsWith line (mark marker block.name) = false :=
        free line List.mem_cons_self
      have later := ih fun other member => free other (List.mem_cons_of_mem _ member)
      rw [List.cons_append, insertAt?, here, later]
      cases insertAt? (mark marker block.name) block.lines lines <;> rfl

/-- Lines without a mark of the blocks stay in front of what is filled. -/
theorem fillLines_append {front : List String}
    (free : ∀ block ∈ blocks, ∀ line ∈ front, block.ends marker line = false) :
    fillLines marker (front ++ lines) blocks = (fillLines marker lines blocks).map (front ++ ·) := by
  induction blocks generalizing lines with
  | nil => rfl
  | cons block rest ih =>
      have later {filled : List String} := @ih filled fun other member =>
        free other (List.mem_cons_of_mem _ member)
      rw [fillLines_cons, fillLines_cons, insertAt?_append (free block List.mem_cons_self)]
      cases insertAt? (mark marker block.name) block.lines lines with
      | none => rfl
      | some filled => exact later

/-- The block whose mark the first line ends with is put in front of the rest. -/
theorem fillLines_takes {line : String} {block : Block} {earlier later : List Block}
    (ends : block.ends marker line = true)
    (others : ∀ other ∈ earlier ++ later, other.ends marker line = false)
    (isSealed : ∀ other ∈ later, ∀ inserted ∈ block.lines, other.ends marker inserted = false) :
    fillLines marker (line :: lines) (earlier ++ block :: later) =
      (fillLines marker lines (earlier ++ later)).map (block.lines ++ ·) := by
  induction earlier generalizing lines with
  | nil =>
      have here : Text.endsWith line (mark marker block.name) = true := ends
      rw [List.nil_append, List.nil_append, fillLines_cons, insertAt?, if_pos here]
      exact fillLines_append isSealed
  | cons first earlier ih =>
      have skips : Text.endsWith line (mark marker first.name) = false :=
        others first List.mem_cons_self
      rw [List.cons_append, List.cons_append, fillLines_cons, fillLines_cons, insertAt?, skips]
      cases insertAt? (mark marker first.name) first.lines lines with
      | none => rfl
      | some filled => exact ih fun other member => others other (List.mem_cons_of_mem _ member)

/-- A line that ends with no mark of the blocks has no influence on which of them are missing. -/
theorem find?_missing_cons {line : String}
    (free : ∀ block ∈ blocks, block.ends marker line = false) :
    blocks.find? (Block.missing marker (line :: lines)) =
      blocks.find? (Block.missing marker lines) := by
  apply List.find?_congr
  intro block member
  rw [Block.missing, Block.missing, List.any_cons, free block member, Bool.false_or]

/-- The blocks whose marks none of the lines above end with. -/
def openBelow (marker : String) (above : List String) (blocks : List Block) : List Block :=
  blocks.filter fun block => !above.any (block.ends marker)

theorem openBelow_nil : openBelow marker [] blocks = blocks :=
  List.filter_eq_self.mpr fun _ _ => rfl

theorem openBelow_cons (line : String) (above : List String) :
    openBelow marker (line :: above) blocks =
      (openBelow marker above blocks).filter fun block => !block.ends marker line := by
  rw [openBelow, openBelow, List.filter_filter]
  apply List.filter_congr
  intro block _
  rw [List.any_cons, Bool.not_or]

theorem find?_takes (above : List String) (line : String) :
    blocks.find? (Block.takes marker above line) =
      (openBelow marker above blocks).find? fun block => block.ends marker line := by
  rw [openBelow, List.find?_filter]
  apply List.find?_congr
  intro block _
  rw [Block.takes, Bool.and_comm, Bool.decide_and, Bool.decide_eq_true, Bool.decide_eq_true]

/-- Of open blocks, at most the one whose mark the first line ends with is filled in there. -/
theorem fillLines_line
    (apart : Apart marker blocks) (isSealed : Sealed marker blocks) (line : String) :
    fillLines marker (line :: lines) blocks =
        (fillLines marker lines (blocks.filter fun block => !block.ends marker line)).map
          ((match blocks.find? fun block => block.ends marker line with
            | some block => block.lines
            | none => [line]) ++ ·) ∧
      blocks.find? (Block.missing marker (line :: lines)) =
        (blocks.filter fun block => !block.ends marker line).find?
          (Block.missing marker lines) := by
  cases found : blocks.find? fun block => block.ends marker line with
  | none =>
      have free : ∀ block ∈ blocks, block.ends marker line = false := by
        simpa using List.find?_eq_none.mp found
      have same : blocks.filter (fun block => !block.ends marker line) = blocks :=
        List.filter_eq_self.mpr fun block member => by rw [free block member, Bool.not_false]
      have kept (block : Block) (member : block ∈ blocks) :
          ∀ other ∈ [line], block.ends marker other = false :=
        List.forall_mem_singleton.mpr (free block member)
      rw [same]
      exact ⟨fillLines_append kept, find?_missing_cons free⟩
  | some block =>
      rcases List.find?_eq_some_iff_append.mp found with ⟨ends, earlier, later, rfl, _⟩
      rcases List.pairwise_append.mp apart with ⟨_, laterApart, across⟩
      have others : ∀ other ∈ earlier ++ later, other.ends marker line = false := by
        intro other member
        apply Bool.eq_false_iff.mpr
        intro alsoEnds
        rcases List.mem_append.mp member with before | after
        · exact across other before block List.mem_cons_self line ⟨alsoEnds, ends⟩
        · exact List.rel_of_pairwise_cons laterApart after line ⟨ends, alsoEnds⟩
      have inserted : ∀ other ∈ later, ∀ line ∈ block.lines, other.ends marker line = false :=
        fun other member =>
          List.rel_of_pairwise_cons (List.pairwise_append.mp isSealed).2.1 member
      have rest : (earlier ++ block :: later).filter (fun other => !other.ends marker line) =
          earlier ++ later := by
        rw [List.filter_append, List.filter_cons, ends, if_neg (by decide), ← List.filter_append]
        exact List.filter_eq_self.mpr fun other member => by rw [others other member, Bool.not_false]
      have present : block.missing marker (line :: lines) = false := by
        rw [Block.missing, List.any_cons, ends, Bool.true_or, Bool.not_true]
      rw [rest]
      refine ⟨fillLines_takes ends others inserted, ?_⟩
      rw [List.find?_append, List.find?_cons, present, ← List.find?_append]
      exact find?_missing_cons others

/-- Filling goes through the lines once, with the blocks that are still open. -/
theorem fillLines_openBelow (apart : Apart marker blocks) (isSealed : Sealed marker blocks)
    (above below : List String) :
    fillLines marker below (openBelow marker above blocks) =
      match (openBelow marker above blocks).find? (Block.missing marker below) with
      | some block => .error ⟨mark marker block.name⟩
      | none => .ok (replaced marker blocks above below) := by
  induction below generalizing above with
  | nil =>
      cases openBelow marker above blocks with
      | nil => rfl
      | cons block rest => rfl
  | cons line below ih =>
      have isOpen : (openBelow marker above blocks).Sublist blocks := List.filter_sublist
      obtain ⟨filled, missing⟩ :=
        @fillLines_line _ _ below (apart.sublist isOpen) (isSealed.sublist isOpen) line
      rw [filled, missing, ← openBelow_cons, ih, replaced, find?_takes]
      cases (openBelow marker (line :: above) blocks).find? (Block.missing marker below) <;> rfl

/-- Filling fails at the first block whose mark is missing, and else puts every block in its place. -/
theorem fillLines_eq (apart : Apart marker blocks) (isSealed : Sealed marker blocks) :
    fillLines marker lines blocks =
      match blocks.find? (Block.missing marker lines) with
      | some block => .error ⟨mark marker block.name⟩
      | none => .ok (replaced marker blocks [] lines) := by
  have whole := fillLines_openBelow apart isSealed [] lines
  rwa [openBelow_nil] at whole

theorem missing_eq_true {block : Block} :
    block.missing marker lines = true ↔ ∀ line ∈ lines, block.ends marker line = false := by
  rw [Block.missing, Bool.not_eq_true', List.any_eq_false]
  simp only [Bool.not_eq_true]

/-- What comes of a template: a failure exactly if the mark of some block ends no line of it, and
else its lines with every block in its place.  The order in which the blocks are filled in does not
show, as no line has two marks and no line of a block has the mark of a later one. -/
structure Filled {ε : Type} (marker template : String) (blocks : List Block)
    (failure : MissingMark → ε) (outcome : Except ε String) : Prop where
  apart : Apart marker blocks
  isSealed : Sealed marker blocks
  fails : (∃ error, outcome = .error error) ↔
    ∃ block ∈ blocks, ∀ line ∈ Text.splitLines template, block.ends marker line = false
  firstMissing : ∀ error, outcome = .error error →
    ∃ block, blocks.find? (Block.missing marker (Text.splitLines template)) = some block ∧
      error = failure ⟨mark marker block.name⟩
  lines : ∀ text, outcome = .ok text →
    text = Text.joinLines (replaced marker blocks [] (Text.splitLines template))

theorem fill_eq (template : String)
    (apart : Apart marker blocks) (isSealed : Sealed marker blocks) :
    fill marker template blocks =
      match blocks.find? (Block.missing marker (Text.splitLines template)) with
      | some block => .error ⟨mark marker block.name⟩
      | none => .ok (Text.joinLines (replaced marker blocks [] (Text.splitLines template))) := by
  rw [fill, fillLines_eq apart isSealed]
  cases blocks.find? (Block.missing marker (Text.splitLines template)) <;> rfl

theorem filled_mapError {ε : Type} (failure : MissingMark → ε) (template : String)
    (apart : Apart marker blocks) (isSealed : Sealed marker blocks) :
    Filled marker template blocks failure ((fill marker template blocks).mapError failure) := by
  rw [fill_eq template apart isSealed]
  cases found : blocks.find? (Block.missing marker (Text.splitLines template)) with
  | none =>
      have present := List.find?_eq_none.mp found
      constructor
      case apart => exact apart
      case isSealed => exact isSealed
      case fails =>
        constructor
        · rintro ⟨_, ⟨⟩⟩
        · rintro ⟨block, member, missing⟩
          exact absurd (missing_eq_true.mpr missing) (present block member)
      case firstMissing => rintro _ ⟨⟩
      case lines =>
        rintro _ ⟨⟩
        rfl
  | some block =>
      have member : block ∈ blocks := List.mem_of_find?_eq_some found
      have missing : block.missing marker (Text.splitLines template) = true :=
        List.find?_some found
      constructor
      case apart => exact apart
      case isSealed => exact isSealed
      case fails =>
        exact ⟨fun _ => ⟨block, member, missing_eq_true.mp missing⟩, fun _ => ⟨_, rfl⟩⟩
      case firstMissing =>
        rintro _ ⟨⟩
        exact ⟨block, found, rfl⟩
      case lines => rintro _ ⟨⟩

theorem filled (template : String) (apart : Apart marker blocks) (isSealed : Sealed marker blocks) :
    Filled marker template blocks id (fill marker template blocks) := by
  have same : (fill marker template blocks).mapError id = fill marker template blocks := by
    cases fill marker template blocks <;> rfl
  rw [← same]
  exact filled_mapError id template apart isSealed

end Filling

/-! ## Marks -/

section Marks

variable {marker line : String} {blocks : List Block}

/-- A text that stands again at the end of a longer one has its first character in what is added. -/
theorem mem_of_suffix_append {first : Char} {rest added : List Char} (nonempty : added ≠ [])
    (suffix : first :: rest <:+ first :: rest ++ added) : first ∈ added := by
  induction length : rest.length using Nat.strongRecOn generalizing rest with
  | ind n ih =>
      rcases suffix with ⟨front, split⟩
      rcases List.append_eq_append_iff.mp split with ⟨middle, isFront, isAdded⟩ | ⟨middle, _, isAdded⟩
      · cases middle with
        | nil =>
            rw [List.nil_append] at isAdded
            rw [← isAdded]
            exact List.mem_cons_self
        | cons next middle =>
            -- the text is as long as this shorter one of the same kind and what is added
            rw [List.cons_append, List.cons.injEq] at isAdded
            rcases isAdded with ⟨rfl, rfl⟩
            refine ih middle.length ?_ ⟨front, isFront.symm⟩ rfl
            rw [← length, List.length_append]
            exact Nat.lt_add_of_pos_right (List.length_pos_iff.mpr nonempty)
      · rw [isAdded]
        exact List.mem_append_right _ List.mem_cons_self

theorem toList_mark (marker name : String) :
    (mark marker name).toList = '/' :: ('/' :: ' ' :: marker.toList) ++ name.toList := by
  simp [mark]

/-- Of two marks, one ends the other only if the names are equal or what is added has a slash. -/
theorem name_eq_of_suffix {first second : String} (plain : '/' ∉ second.toList)
    (suffix : (mark marker first).toList <:+ (mark marker second).toList) : first = second := by
  rw [toList_mark, toList_mark] at suffix
  have shorter : first.toList.length ≤ second.toList.length := by
    have lengths := suffix.length_le
    simpa using lengths
  have inner : first.toList <:+ second.toList :=
    List.suffix_of_suffix_length_le ((List.suffix_append _ _).trans suffix)
      (List.suffix_append _ _) shorter
  rcases inner with ⟨added, isSecond⟩
  rw [← isSecond, ← List.append_assoc, List.suffix_append_self_iff] at suffix
  cases added with
  | nil => exact String.toList_injective isSecond
  | cons c added =>
      refine absurd ?_ plain
      rw [← isSecond]
      exact List.mem_append_left _ (mem_of_suffix_append (by simp) suffix)

/-- Marks of two names without a slash never end the same line. -/
theorem name_eq_of_ends {first second : Block}
    (firstPlain : '/' ∉ first.name.toList) (secondPlain : '/' ∉ second.name.toList)
    (firstEnds : first.ends marker line = true) (secondEnds : second.ends marker line = true) :
    first.name = second.name := by
  rw [Block.ends, Text.endsWith, List.isSuffixOf_iff_suffix] at firstEnds secondEnds
  rcases List.suffix_or_suffix_of_suffix firstEnds secondEnds with shorter | longer
  · exact name_eq_of_suffix secondPlain shorter
  · exact (name_eq_of_suffix firstPlain longer).symm

theorem apart_of_names {names : List String} (isNames : blocks.map Block.name = names)
    (distinct : names.Nodup) (plain : ∀ name ∈ names, '/' ∉ name.toList) :
    Apart marker blocks := by
  subst isNames
  have plainBlock (block : Block) (member : block ∈ blocks) : '/' ∉ block.name.toList :=
    plain block.name (List.mem_map_of_mem member)
  refine (List.pairwise_map.mp distinct).imp_of_mem fun inBlocks alsoIn names line ends => ?_
  exact names (name_eq_of_ends (plainBlock _ inBlocks) (plainBlock _ alsoIn) ends.1 ends.2)

/-- Whether a text ends with a letter. -/
def endsWithLetter (text : String) : Bool :=
  text.toList.getLast?.any Char.isAlpha

theorem endsWithLetter_append (front : String) {back : String} (nonempty : back.isEmpty = false) :
    endsWithLetter (front ++ back) = endsWithLetter back := by
  have isLast : back.toList.getLast?.isSome = true := by
    rw [List.getLast?_isSome, Ne, String.toList_eq_nil_iff, ← String.isEmpty_iff, nonempty]
    exact Bool.false_ne_true
  rw [endsWithLetter, endsWithLetter, String.toList_append, List.getLast?_append,
    Option.or_of_isSome isLast]

/-- A line that does not end with a letter. -/
def Punctuated (line : String) : Prop :=
  endsWithLetter line = false

instance (line : String) : Decidable (Punctuated line) :=
  inferInstanceAs (Decidable (_ = false))

theorem punctuated_append (front : String) {back : String}
    (last : back.isEmpty = false ∧ Punctuated back) : Punctuated (front ++ back) :=
  (endsWithLetter_append front last.1).trans last.2

/-- A line that does not end with a letter is never taken for a mark that does. -/
theorem ends_eq_false {block : Block} (lettered : endsWithLetter block.name = true)
    (punctuated : Punctuated line) : block.ends marker line = false := by
  apply Bool.eq_false_iff.mpr
  intro ends
  rcases Text.endsWith_iff_exists.mp ends with ⟨front, rfl⟩
  have nonempty : block.name.isEmpty = false := by
    apply Bool.eq_false_iff.mpr
    intro empty
    rw [String.isEmpty_iff.mp empty] at lettered
    cases lettered
  rw [Punctuated, mark, ← String.append_assoc, endsWithLetter_append _ nonempty, lettered]
    at punctuated
  cases punctuated

/-- Only the lines of the last block may end with letters, since no mark is filled after it. -/
theorem sealed_of_punctuated {names : List String} (isNames : blocks.map Block.name = names)
    (lettered : ∀ name ∈ names, endsWithLetter name = true)
    (punctuated : ∀ block ∈ blocks.dropLast, ∀ line ∈ block.lines, Punctuated line) :
    Sealed marker blocks := by
  induction blocks generalizing names with
  | nil => exact .nil
  | cons first rest ih =>
      have dropped (nonempty : rest ≠ []) : (first :: rest).dropLast = first :: rest.dropLast :=
        List.dropLast_cons_of_ne_nil nonempty
      subst isNames
      refine .cons ?_
        (ih rfl (fun name member => lettered name (List.mem_cons_of_mem _ member)) ?_)
      · intro later inRest line inFirst
        have isFirst : first ∈ (first :: rest).dropLast := by
          rw [dropped (List.ne_nil_of_mem inRest)]
          exact List.mem_cons_self
        have isName : later.name ∈ (first :: rest).map Block.name :=
          List.mem_map_of_mem (List.mem_cons_of_mem _ inRest)
        exact ends_eq_false (lettered later.name isName) (punctuated first isFirst line inFirst)
      · intro block member
        refine punctuated block ?_
        rw [dropped (List.ne_nil_of_mem (List.mem_of_mem_dropLast member))]
        exact List.mem_cons_of_mem _ member

end Marks

end Binding

/-! ## The blocks of the bindings -/

theorem punctuated_engineInclude (name : String) : Punctuated (engineInclude name) :=
  punctuated_append _ (by decide)

namespace Exports

theorem Wrapper.punctuated_lines (w : Wrapper) : ∀ line ∈ w.lines, Punctuated line := by
  rw [lines, structureLines, makersLines, destroyLines]
  cases w.isCounted <;> simp [makerLines, Punctuated, endsWithLetter, toString, List.getLast?_cons]

theorem Definition.punctuated_lines (d : Definition) : ∀ line ∈ d.lines, Punctuated line := by
  have handed : ∀ line ∈ d.handed.lines d.call, Punctuated line := by
    cases d.handed <;> simp [Handed.lines, Punctuated, endsWithLetter, toString, List.getLast?_cons]
  intro line member
  rw [lines] at member
  simp only [List.cons_append, List.mem_cons, List.mem_append, List.not_mem_nil, or_false] at member
  rcases member with rfl | rfl | inHanded | rfl | rfl
  · exact punctuated_append _ (by decide)
  · decide
  · exact handed line inHanded
  · decide
  · decide

theorem Wrapper.punctuated_registrations (w : Wrapper) :
    ∀ line ∈ w.registrations, Punctuated line := by
  intro line member
  rcases List.mem_append.mp member with ofSymbol | ofClass
  · rcases List.mem_map.mp ofSymbol with ⟨symbol, _, rfl⟩
    exact punctuated_append _ (by decide)
  · rw [List.mem_singleton.mp ofClass]
    exact punctuated_append _ (by decide)

theorem Definition.punctuated_registration (d : Definition) : Punctuated d.registration :=
  punctuated_append _ (by decide)

variable (source : Source) (options : Options)

theorem blocks_names : (source.blocks options).map Block.name =
    ["_API_INCLUDES", "_GODOT_API_INCLUDES", "_FUNCTIONS", "_REGISTRATIONS", "_REFS_CLEAR"] :=
  rfl

theorem blocks_apart : Apart options.marker (source.blocks options) :=
  apart_of_names (blocks_names source options) (by decide) (by decide)

theorem blocks_sealed : Sealed options.marker (source.blocks options) := by
  refine sealed_of_punctuated (blocks_names source options) (by decide) ?_
  intro block member line inBlock
  simp only [Source.blocks, List.dropLast, List.mem_cons, List.not_mem_nil, or_false] at member
  rcases member with rfl | rfl | rfl | rfl
  · rcases List.mem_map.mp inBlock with ⟨header, _, rfl⟩
    exact punctuated_append _ (by decide)
  · rcases List.mem_map.mp inBlock with ⟨name, _, rfl⟩
    exact punctuated_engineInclude name
  · rcases List.mem_append.mp inBlock with ofWrapper | ofDefinition
    · rcases List.mem_flatMap.mp ofWrapper with ⟨w, _, inLines⟩
      exact w.punctuated_lines line inLines
    · rcases List.mem_flatMap.mp ofDefinition with ⟨d, _, inLines⟩
      exact d.punctuated_lines line inLines
  · rcases List.mem_append.mp inBlock with ofWrapper | ofDefinition
    · rcases List.mem_flatMap.mp ofWrapper with ⟨w, _, inLines⟩
      exact w.punctuated_registrations line inLines
    · rcases List.mem_map.mp ofDefinition with ⟨d, _, rfl⟩
      exact d.punctuated_registration

end Exports

namespace Native

variable (api : Api) (options : Options)

theorem blocks_names : (blocks api options).map Block.name =
    ["_API_INCLUDES", "_API_FORWARD_DECLARATIONS", "_API_FUNCTIONS"] :=
  rfl

theorem blocks_apart : Apart options.marker (blocks api options) :=
  apart_of_names (blocks_names api options) (by decide) (by decide)

theorem blocks_sealed : Sealed options.marker (blocks api options) := by
  refine sealed_of_punctuated (blocks_names api options) (by decide) ?_
  intro block member line inBlock
  simp only [blocks, List.dropLast, List.mem_cons, List.not_mem_nil, or_false] at member
  rcases member with rfl | rfl
  · rcases List.mem_map.mp inBlock with ⟨name, _, rfl⟩
    exact punctuated_engineInclude name
  · rcases List.mem_filterMap.mp inBlock with ⟨c, _, isForward⟩
    rw [forwardLine?] at isForward
    split at isForward
    · cases isForward
    · cases isForward
      exact punctuated_append _ (by decide)

end Native

namespace Managed

variable (marker apiName : String) (classes : List ClassDefinition)

theorem blocks_names : (blocks apiName classes).map Block.name =
    ["_API_DEFAULT_VALUES", "_API_FUNCTIONS"] :=
  rfl

theorem blocks_apart : Apart marker (blocks apiName classes) :=
  apart_of_names (blocks_names apiName classes) (by decide) (by decide)

theorem punctuated_field (field : Field) : Punctuated (indented "    " field.text) := by
  obtain ⟨front, isText⟩ : ∃ front, field.text = front ++ ";" := ⟨_, rfl⟩
  have text : Punctuated (front ++ ";") := punctuated_append front (by decide)
  have nonempty : (front ++ ";").isEmpty = false := by simp
  rw [isText, indented, nonempty]
  exact punctuated_append _ ⟨nonempty, text⟩

theorem blocks_sealed : Sealed marker (blocks apiName classes) := by
  refine sealed_of_punctuated (blocks_names apiName classes) (by decide) ?_
  intro block member line inBlock
  simp only [blocks, List.dropLast, List.mem_cons, List.not_mem_nil, or_false] at member
  rcases member with rfl
  rcases List.mem_map.mp inBlock with ⟨field, _, rfl⟩
  exact punctuated_field field

end Managed

/-- What the bindings of an interface make of their templates. -/
structure Api.TemplatesFilled (api : Api) : Prop where
  exported (options : Exports.Options) :
    Filled options.marker options.template ((Exports.Source.ofApi api).blocks options) id
      (Exports.generate api options)
  native (options : Native.Options) :
    Filled options.marker options.template (Native.blocks api.withLifecycle options) id
      (Native.generate api options)
  managed (options : Managed.Options) (classes : List Managed.ClassDefinition) :
    Managed.classesOf api.withLifecycle options.apiName = .ok classes →
      Filled options.marker options.preparedTemplate (Managed.blocks options.apiName classes)
        .missingMark (Managed.generate api options)

/-- Every binding of every interface fills the lines of its template, whatever the marker is. -/
theorem Api.templatesFilled (api : Api) : api.TemplatesFilled := by
  constructor
  case exported =>
    intro options
    exact filled options.template (Exports.blocks_apart _ options) (Exports.blocks_sealed _ options)
  case native =>
    intro options
    exact filled options.template (Native.blocks_apart _ options) (Native.blocks_sealed _ options)
  case managed =>
    intro options classes made
    rw [Managed.generate, made]
    exact filled_mapError Managed.Failure.missingMark options.preparedTemplate
      (Managed.blocks_apart options.marker options.apiName classes)
      (Managed.blocks_sealed options.marker options.apiName classes)

/-- All classes of this interface are written, so its managed wrapper fills its template as well. -/
theorem enumArrayApi_templatesFilled :
    (Managed.classesOf enumArrayApi.withLifecycle "lib").toOption.isSome ∧
      enumArrayApi.TemplatesFilled :=
  ⟨by decide +kernel, enumArrayApi.templatesFilled⟩

end HeaderBindings
