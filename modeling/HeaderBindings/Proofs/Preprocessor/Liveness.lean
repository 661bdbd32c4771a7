import HeaderBindings.Preprocessor.Conditions
import HeaderBindings.Proofs.Text.Slice

/-!
# The preprocessor along the lines of a header

The state after some lines is the one before them, changed by their directives
in turn.  A line that does not start with a number sign is no directive, so it
changes nothing.  The names given from outside are never changed, and so the
state at the start of a header does not depend on what was read before it.
-/

namespace HeaderBindings.Preprocessor

/-- A line that does not start with a number sign is no directive. -/
theorem Directive.ofLine_code {line : String}
    (noDirective : Text.startsWith (Text.trim line) "#" = false) :
    Directive.ofLine line = .code := by
  have define := Text.dropHead?_append_eq_none "define " noDirective
  have ifDefined := Text.dropHead?_append_eq_none "ifdef " noDirective
  have ifNotDefined := Text.dropHead?_append_eq_none "ifndef " noDirective
  have expression := Text.startsWith_append_eq_false "if " noDirective
  have parenthesis := Text.startsWith_append_eq_false "if(" noDirective
  have otherwise := Text.startsWith_append_eq_false "else" noDirective
  have ending := Text.startsWith_append_eq_false "endif" noDirective
  rw [Directive.ofLine]
  simp_all

namespace Conditions

/-- The state after some lines. -/
def after (state : Conditions) (lines : List String) : Conditions :=
  lines.foldl (fun state line => state.step (Directive.ofLine line)) state

@[simp]
theorem after_nil (state : Conditions) : state.after [] = state :=
  rfl

@[simp]
theorem after_cons (state : Conditions) (line : String) (lines : List String) :
    state.after (line :: lines) = (state.step (Directive.ofLine line)).after lines := by
  simp only [after, List.foldl_cons]

theorem after_append (state : Conditions) (lines more : List String) :
    state.after (lines ++ more) = (state.after lines).after more :=
  List.foldl_append

theorem after_concat (state : Conditions) (lines : List String) (line : String) :
    state.after (lines ++ [line]) = (state.after lines).step (Directive.ofLine line) := by
  rw [after_append, after_cons, after_nil]

/-- Directives do not count, and code does not count in an inactive block. -/
theorem admits_eq_false {state : Conditions} (inactive : state.isLive = false)
    (directive : Directive) : state.admits directive = false := by
  cases directive with
  | code => exact inactive
  | _ => rfl

@[simp]
theorem step_given (state : Conditions) (directive : Directive) :
    (state.step directive).given = state.given := by
  cases directive with
  | define name => cases name <;> rfl
  | otherwise =>
      rw [step]
      split <;> rfl
  | ifDefined name negated => rfl
  | ifExpression => rfl
  | endIf => rfl
  | code => rfl

@[simp]
theorem after_given (state : Conditions) (lines : List String) :
    (state.after lines).given = state.given := by
  induction lines generalizing state with
  | nil => rfl
  | cons line rest ih => rw [after_cons, ih, step_given]

/-- Nothing that lines do to the state outlives the start of the next header. -/
theorem reset_after (state : Conditions) (lines : List String) :
    (state.after lines).reset = state.reset := by
  simp [reset]

end Conditions

end HeaderBindings.Preprocessor
