import HeaderBindings.Proofs.Json.Dump
import HeaderBindings.Proofs.Model.RoundTrip

/-!
# The hashed text

The text that the fingerprint is taken of, against the reference form that it
is documented to have.  The two agree as long as no text of the interface holds
the delete character, which the reference form escapes and the hashed text does
not.
-/

namespace HeaderBindings.Api

/-- The reference form of the classes, which the hashed text is documented to be. -/
def referenceText (api : Api) : String :=
  .ofList (Json.dump Json.Dump.isPrintable api.encode)

/--
The hashed text is the reference form with the delete character taken as
printable, so it is the reference form exactly where that character is absent.
-/
theorem hashedText_reference (api : Api) :
    api.hashedText = .ofList (Json.dump Json.isPlain api.encode) ∧
      (api.hashedText = api.referenceText ↔
        ∀ text, api.encode.Holds text → '\x7F' ∉ text.toList) := by
  have line : api.hashedText = .ofList (Json.writeLine api.encode) := rfl
  have inOrder := api.inOrder_encode
  constructor
  · rw [line, Json.writeLine_eq_dump inOrder]
  · rw [line, referenceText, String.ofList_inj]
    exact Json.writeLine_eq_reference_iff inOrder

/-- An interface whose only documentation is the delete character. -/
def deleteDocs : Api :=
  { classes := [{ name := "A", kind := .regular, docs := ["\x7F"] }] }

/-- The hashed text is not always the reference form. -/
theorem hashedText_not_always_reference :
    ¬ ∀ api : Api, api.hashedText = api.referenceText := by
  intro always
  have same := always deleteDocs
  have different : deleteDocs.hashedText ≠ deleteDocs.referenceText := by
    decide +kernel
  exact different same

end HeaderBindings.Api
