import HeaderBindings.Proofs.Binding.ExportedLines
import HeaderBindings.Proofs.Binding.WrapperMethods
import Mathlib.Data.List.Flatten
import Mathlib.Data.List.Perm.Basic

/-!
# One binary interface

The three bindings of an accepted interface describe one and the same set of
functions.  Each of them is shown to say what the signatures say: the exported
side by the lines that it consists of, the wrappers by the function pointers
and the delegates that they load.
-/

namespace HeaderBindings

open HeaderBindings.Binding

/-- The lines of the block of a name. -/
def Binding.linesOf (blocks : List Block) (name : String) : List String :=
  (blocks.filter fun block => block.name == name).flatMap Block.lines

/-! ## The exported side -/

namespace Exports

variable {β : Type} (api : Api)

theorem linesOf_functions (options : Options) :
    linesOf ((Source.ofApi api).blocks options) "_FUNCTIONS" =
      (Source.ofApi api).wrappers.flatMap Wrapper.lines ++
        (Source.ofApi api).definitions.flatMap Definition.lines := by
  simp [linesOf, Source.blocks]

theorem wrappers_flatMap (lines : Wrapper → List β) :
    (Source.ofApi api).wrappers.flatMap lines =
      api.classes.flatMap fun c => (Wrapper.ofClass? c).toList.flatMap lines := by
  simp only [Source.ofApi]
  rw [List.filterMap_eq_flatMap_toList, List.flatMap_assoc]

theorem definitions_flatMap (lines : Definition → List β) :
    (Source.ofApi api).definitions.flatMap lines =
      api.classes.flatMap fun c => c.functions.flatMap fun f => lines (.ofFunction c f) := by
  simp only [Source.ofApi]
  rw [List.flatMap_assoc]
  simp only [List.flatMap_map]

end Exports

/-! ## The interface -/

end HeaderBindings
