import HeaderBindings.Digest.Sha1
import HeaderBindings.Json.Printer
import HeaderBindings.Json.Reader
import HeaderBindings.Model.Encoding

/-!
# The fingerprint of an interface

The digest of the classes in one-line JSON, and the file that holds the digest and the classes.
-/

namespace HeaderBindings.Api

open Json (Value)

/-- The text that the fingerprint is taken of. -/
def hashedText (api : Api) : String :=
  api.encode.line

/-- The fingerprint of an interface. -/
def fingerprint (api : Api) : String :=
  Digest.sha1 (hashedText api).toUTF8.toList

/-- The text of the interface file. -/
def document (api : Api) : String :=
  (Value.ofFields [("hash", .string api.fingerprint), ("classes", api.encode)]).indented

/-- Reads the classes of an interface file. -/
def ofDocument? (text : String) : Option Api :=
  (Json.parse? text).bind fun value => required? value "classes" decode?

end HeaderBindings.Api
