import HeaderBindings.Binding.Managed.Source
import HeaderBindings.Binding.Native.Header
import HeaderBindings.Proofs.Outcome

/-!
# The methods of the wrappers

Both wrappers have one method for each function of a class, in the order of
the functions: the native one among the parts of the class, the managed one if
the documentation can be rendered.
-/

namespace HeaderBindings

namespace Native

end Native

namespace Managed

/-- The delegates of the methods of a class. -/
theorem ofClass_methods
    {enums : EnumTable} {apiName : String} {c : Class} {definition : ClassDefinition}
    (made : ClassDefinition.ofClass enums apiName c = .ok definition) :
    List.Forall₂ (fun f m => Method.ofFunction enums apiName c f = .ok m)
      c.functions definition.methods := by
  rw [ClassDefinition.ofClass] at made
  rcases Outcome.bind_eq_ok_iff.mp made with ⟨docs, _, afterDocs⟩
  rcases Outcome.bind_eq_ok_iff.mp afterDocs with ⟨enumDefinitions, _, afterEnums⟩
  rcases Outcome.bind_eq_ok_iff.mp afterEnums with ⟨methods, methodsOk, equal⟩
  cases equal
  exact (Outcome.mapM_eq_ok_iff.mp methodsOk).imp fun _ _ => Outcome.mapError_eq_ok_iff.mp

theorem ofFunction_ok
    {enums : EnumTable} {apiName : String} {c : Class} {f : Function} {m : Method}
    (made : Method.ofFunction enums apiName c f = .ok m) :
    m.passesInstance = (!c.isSingleton && !f.isPrivate) ∧
    m.shares = (if !c.isSingleton && !f.isPrivate then f.valueArgs else f.args).map
      (Share.ofArgument enums (loaderName apiName) f) ∧
    m.delegate = .ofFunction f := by
  rw [Method.ofFunction] at made
  rcases Outcome.bind_eq_ok_iff.mp made with ⟨docs, _, equal⟩
  cases equal
  exact ⟨rfl, rfl, rfl⟩

end Managed

end HeaderBindings
