import HeaderBindings.Proofs.Binding.CallSites

/-!
# Calls that may be left out

Where calls are disabled, a wrapper leaves out those that it may.  The lines for
this stand under directives of the preprocessor.  A native method has no other
directives, and neither has a managed one without array groups, so that its text
shows whether the call may be left out.
-/

namespace HeaderBindings

/-! ## Conditional lines -/

namespace Managed

namespace Method

variable {apiName : String} {m : Method}

variable {enums : EnumTable} {c : Class} {f : Function}

end Method

end Managed

namespace Native

end Native

end HeaderBindings
