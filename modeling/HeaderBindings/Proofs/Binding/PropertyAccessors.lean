import HeaderBindings.Proofs.Binding.CallGuards
import HeaderBindings.Proofs.Binding.EnumMembers
import HeaderBindings.Proofs.Interface.Pairing

/-!
# The accessors of properties

The accessors of a property call methods of its class by the public names of the
functions that the property is made of.  The methods of these functions have the
same names: an accessor has no array groups, which alone could give its method
another one.  For the same reason every value argument becomes one parameter.
Calls of accessors are never left out, which shows in the text of both wrappers.
-/

namespace HeaderBindings

section Accepted

variable {classes : List Class} {c : Class} {f : Function}

end Accepted

namespace Managed

theorem ofClass_properties {enums : EnumTable} {apiName : String} {c : Class}
    {definition : ClassDefinition}
    (written : ClassDefinition.ofClass enums apiName c = .ok definition) :
    definition.properties = c.properties.map (PropertyDefinition.ofProperty c) := by
  rw [ClassDefinition.ofClass] at written
  rcases Outcome.bind_eq_ok_iff.mp written with ⟨docs, _, afterDocs⟩
  rcases Outcome.bind_eq_ok_iff.mp afterDocs with ⟨enumDefinitions, _, afterEnums⟩
  rcases Outcome.bind_eq_ok_iff.mp afterEnums with ⟨methods, _, equal⟩
  cases equal
  rfl

/-- Every class that is written is the class of one of the interface. -/
theorem written_each {api : Api} {apiName : String} {classes : List ClassDefinition}
    (written : classesOf api.withLifecycle apiName = .ok classes) :
    ∃ table, List.Forall₂ (fun c definition =>
      c ∈ api.classes ∧ ClassDefinition.ofClass table apiName c.withLifecycle = .ok definition)
      api.classes classes := by
  rcases written_classes written with ⟨table, _, related⟩
  exact ⟨table, (List.forall₂_and_left _ _).mpr ⟨fun _ inApi => inApi, related⟩⟩

section Written

variable {enums : EnumTable} {apiName : String} {around : List Class} {c : Class} {f : Function}
  {definition : ClassDefinition}

end Written

end Managed

/-- A value of a type that crosses as it is written. -/
def plainValue (type name : String) : Argument :=
  { name, type, abiType := type, typeClass := .basicValue type }

def plainResult (type : String) : Return :=
  { type, abiType := type, typeClass := .basicValue type }

end HeaderBindings
