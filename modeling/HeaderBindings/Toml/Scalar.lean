import HeaderBindings.Toml.Moment
import HeaderBindings.Toml.Value

/-!
# TOML scalars

The values that are written without quotation marks or brackets.
-/

namespace HeaderBindings.Toml

/-- Reads a boolean, a number, a date or a time. -/
def scalar? (text : List Char) : Option Value :=
  match number? text, moment? text with
  | some number, _ => some (.number number)
  | none, some moment => some (.moment (.ofList moment))
  | none, none => if text = "true".toList ∨ text = "false".toList then some .boolean else none

end HeaderBindings.Toml
