import HeaderBindings.Proofs.Binding.Signature

/-!
# The lines of the exported side

What is exported and what is registered can be read off the lines alone.  The
functions of the lifecycle are written out there without an argument list from
which they could be derived, so that their agreement with the signatures is a
matter of the text.
-/

namespace HeaderBindings

open HeaderBindings.Binding

namespace Exports

/-- Whether a line is the first one of an exported function. -/
def isHead (line : String) : Bool :=
  Text.startsWith line "extern \"C\" "

theorem not_isHead {line : String} (first : line.toList.head? ≠ some 'e') :
    isHead line = false := by
  apply Bool.eq_false_iff.mpr
  intro starts
  rw [isHead, Text.startsWith, List.isPrefixOf_iff_prefix] at starts
  rcases starts with ⟨rest, split⟩
  rw [← split] at first
  simp at first

theorem filter_isHead_eq_nil {lines : List String}
    (first : ∀ line ∈ lines, line.toList.head? ≠ some 'e') :
    lines.filter isHead = [] := by
  rw [List.filter_eq_nil_iff]
  intro line member
  rw [not_isHead (first line member)]
  exact Bool.false_ne_true

theorem filter_isHead_cons {first : String} {rest : List String}
    (others : ∀ line ∈ rest, line.toList.head? ≠ some 'e') :
    (first :: rest).filter isHead = [first].filter isHead := by
  rw [← List.singleton_append, List.filter_append, filter_isHead_eq_nil others, List.append_nil]

namespace Wrapper

/-- The first lines of the functions that make and drop the wrappers of a class. -/
def heads (w : Wrapper) : List String :=
  let c := w.className
  [s!"extern \"C\" static void *{c}_create() \x7b",
    s!"extern \"C\" static void *{c}_create_nullptr() \x7b",
    s!"extern \"C\" static void {c}_destroy(void *inst_ptr) \x7b"]

theorem structureLines_filter (w : Wrapper) : w.structureLines.filter isHead = [] := by
  apply filter_isHead_eq_nil
  rw [structureLines]
  cases w.isCounted <;> simp [toString]

theorem makerLines_filter (w : Wrapper) (signature value : String) :
    (w.makerLines signature value).filter isHead = [s!"{signature} \x7b"].filter isHead := by
  rw [makerLines]
  apply filter_isHead_cons
  simp [toString]

theorem destroyLines_filter (w : Wrapper) :
    w.destroyLines.filter isHead =
      [s!"extern \"C\" static void {w.className}_destroy(void *inst_ptr) \x7b"].filter isHead := by
  rw [destroyLines]
  apply filter_isHead_cons
  simp [toString]

/-- A wrapper exports nothing but the lifecycle of its class. -/
theorem lines_filter (w : Wrapper) : w.lines.filter isHead = w.heads := by
  rw [lines, List.filter_append, List.filter_append, structureLines_filter, makersLines,
    List.filter_append, List.filter_append, destroyLines_filter, makerLines_filter,
    makerLines_filter]
  cases w.isCounted
  · simp [heads, isHead, Text.startsWith, toString, String.append_assoc]
  · simp only [if_true, makerLines_filter]
    simp [heads, isHead, Text.startsWith, toString, String.append_assoc]

end Wrapper

/-- The first line of an exported function. -/
def Definition.head (d : Definition) : String :=
  let declared := declaration d.resultType d.symbol
  let params := Text.joinWith ", " (d.params.map Param.text)
  s!"extern \"C\" static {declared}({params}) \x7b"

theorem Definition.lines_filter (d : Definition) : d.lines.filter isHead = [d.head] := by
  have isFirst : isHead d.head = true := by
    unfold head
    generalize declaration d.resultType d.symbol = declared
    generalize Text.joinWith ", " (d.params.map Param.text) = params
    simp [isHead, Text.startsWith, toString]
  have split : d.lines = d.head :: ("\tZoneScoped;" :: d.handed.lines d.call ++ ["\x7d", ""]) := by
    unfold Definition.lines head
    rfl
  have others : ∀ line ∈ "\tZoneScoped;" :: d.handed.lines d.call ++ ["\x7d", ""],
      line.toList.head? ≠ some 'e' := by
    cases d.handed <;> simp [Handed.lines, toString]
  rw [split, filter_isHead_cons others]
  exact List.filter_cons_of_pos isFirst

theorem declaration_handle (name : String) : declaration "void *" name = "void *" ++ name := by
  rw [declaration, (by decide : Text.trim "void *" = "void *")]
  rw [if_pos (by decide)]

theorem declaration_void (name : String) : declaration "void" name = "void" ++ (" " ++ name) := by
  rw [declaration, (by decide : Text.trim "void" = "void")]
  rw [if_neg (by decide), String.append_assoc]

end Exports

end HeaderBindings
