import HeaderBindings.Binding.Exports
import HeaderBindings.Binding.Managed.Method
import HeaderBindings.Binding.Native.Method
import HeaderBindings.Proofs.Interface.WellFormed
import HeaderBindings.Proofs.Typing.Spelling

/-!
# Signatures at the boundary

The exported side, the native wrapper and the managed wrapper each spell out
the functions that cross the boundary in their own way.  A signature is what
they have to agree on.  A function whose arguments and whose result cross the
boundary in a type that all three derive in the same way has the signature in
all three, and the functions of an accepted interface are of this kind, those
of the lifecycle included.
-/

namespace HeaderBindings

open HeaderBindings.Binding

/-- What has to be agreed on for one function that crosses the boundary. -/
structure Signature where
  symbol : String
  result : String
  params : List Exports.Param
  deriving Repr, DecidableEq

namespace Signature

/-- The signature of a function. -/
def ofFunction (f : Function) : Signature where
  symbol := f.symbol
  result := f.result.abiType
  params := f.args.map Exports.Param.ofArgument

/-- The text of the type of a parameter. -/
def typeText (param : Exports.Param) : String :=
  (Native.PointerParam.mk param.type param.engineClass).text

/-- The first line of the exported function. -/
def head (s : Signature) : String :=
  let declared := declaration s.result s.symbol
  let params := Text.joinWith ", "
    (s.params.map fun param => declaration (typeText param) param.name)
  s!"extern \"C\" static {declared}({params}) \x7b"

/-- The pointer of the native wrapper to the exported function. -/
def pointer (s : Signature) : Native.Pointer where
  symbol := s.symbol
  resultType := s.result
  params := s.params.map fun param => ⟨param.type, param.engineClass⟩

/-- The delegate of the managed wrapper for the exported function. -/
def delegate (s : Signature) : Managed.Delegate where
  symbol := s.symbol
  resultType := Managed.typeName s.result
  params := s.params.map fun param =>
    { type := Managed.typeName param.type, name := param.name }

/-- The condition of the managed wrapper that the exported function is loaded. -/
def loadLine (loader : String) (s : Signature) : String :=
  let symbol := s.symbol
  s!"if ({loader}.LoadFunction(\"{symbol}\", ref func_{symbol}, ref func_{symbol}_result))"

end Signature

/-- A class of a type whose integer, if it has one, an enum may have as its underlying type. -/
def TypeClass.Supported : TypeClass → Prop
  | .enumeration _ _ underlying => underlying ∈ Header.underlyingTypes
  | _ => True

/-- An argument that all three bindings take to cross the boundary in the same type. -/
structure Argument.Crosses (arg : Argument) : Prop where
  trimmed : Text.trim arg.abiType = arg.abiType
  instanceNumber : ∀ className byReference,
    arg.typeClass = .object className byReference → arg.abiType = "const uint64_t"
  managed : (Managed.Delegate.paramOfArgument arg).type = Managed.typeName arg.abiType

/-- A function that all three bindings take to cross the boundary in the same types. -/
structure Function.Crosses (f : Function) : Prop where
  args : ∀ arg ∈ f.args, arg.Crosses
  trimmed : Text.trim f.result.abiType = f.result.abiType
  returnsSelf : f.returnsSelf = true → f.result.abiType = "void"
  managed : Managed.crossingType f.result.abiType f.result.typeClass =
    Managed.typeName f.result.abiType

theorem trim_abiType
    {typeClass : TypeClass} (supported : typeClass.Supported)
    (type : String) (position : Typing.Position) :
    Text.trim (Typing.abiType type typeClass position) =
      Typing.abiType type typeClass position := by
  cases typeClass with
  | plain => exact (Typing.trimmed_withoutReference type).trim_eq
  | basicValue => exact (Typing.trimmed_withoutReference type).trim_eq
  | refCounted => exact (by decide : Text.trim "void *" = "void *")
  | object => exact (by decide : Text.trim "const uint64_t" = "const uint64_t")
  | enumeration owner name underlying =>
      have integers : ∀ integer ∈ Header.underlyingTypes,
          Text.trim integer = integer ∧ Text.trim ("const " ++ integer) = "const " ++ integer := by
        decide +kernel
      cases position with
      | argument => exact (integers underlying supported).2
      | result => exact (integers underlying supported).1

/-- The managed wrapper passes every class of types in the spelling of the boundary type. -/
theorem crossingType_abiType
    {typeClass : TypeClass} (supported : typeClass.Supported)
    (type : String) (position : Typing.Position) :
    Managed.crossingType (Typing.abiType type typeClass position) typeClass =
      Managed.typeName (Typing.abiType type typeClass position) := by
  cases typeClass with
  | plain => rfl
  | basicValue => rfl
  | refCounted => exact (by decide +kernel : Managed.pointerType = Managed.typeName "void *")
  | object => exact (by decide +kernel : "ulong" = Managed.typeName "const uint64_t")
  | enumeration owner name underlying =>
      have integers : ∀ integer ∈ Header.underlyingTypes,
          Managed.typeName integer = Managed.typeName ("const " ++ integer) := by
        decide +kernel
      cases position with
      | argument => exact integers underlying supported
      | result => rfl

theorem supported_of_grounded
    {classes : List Class} {typeClass : TypeClass}
    (integers : ∀ c ∈ classes, ∀ e ∈ c.enums, e.underlying ∈ Header.underlyingTypes)
    (grounded : typeClass.Grounded classes) :
    typeClass.Supported := by
  cases typeClass with
  | enumeration owner name underlying =>
      rcases grounded with ⟨c, inClasses, _, e, inEnums, _, isUnderlying⟩
      rw [TypeClass.Supported, ← isUnderlying]
      exact integers c inClasses e inEnums
  | plain => trivial
  | refCounted => trivial
  | object => trivial
  | basicValue => trivial

theorem Argument.WellFormed.crosses
    {classes : List Class} {arg : Argument}
    (integers : ∀ c ∈ classes, ∀ e ∈ c.enums, e.underlying ∈ Header.underlyingTypes)
    (value : arg.isInstance = false)
    (wellFormed : arg.WellFormed classes) :
    arg.Crosses := by
  have supported := supported_of_grounded integers wellFormed.grounded
  constructor
  · rw [wellFormed.abi]
    exact trim_abiType supported arg.type .argument
  · intro className byReference object
    rw [wellFormed.abi, object]
    rfl
  · rw [Managed.Delegate.paramOfArgument, if_neg (by simp [value]), wellFormed.abi]
    exact crossingType_abiType supported arg.type .argument

namespace Argument.Crosses

variable {arg : Argument}

end Argument.Crosses

namespace Function.Crosses

variable {f : Function}

theorem pointer (crosses : f.Crosses) :
    Native.Pointer.ofFunction f = (Signature.ofFunction f).pointer := by
  have params : f.args.map Native.PointerParam.ofArgument =
      (f.args.map Exports.Param.ofArgument).map fun param => ⟨param.type, param.engineClass⟩ := by
    rw [List.map_map]
    apply List.map_congr_left
    intro arg _
    rw [Native.PointerParam.ofArgument, Function.comp_apply, Exports.Param.ofArgument]
    cases arg.typeClass <;> rfl
  have result : (if f.returnsSelf then "void" else f.result.abiType) = f.result.abiType := by
    split
    · rename_i returns
      exact (crosses.returnsSelf returns).symm
    · rfl
  simp only [Native.Pointer.ofFunction, Signature.pointer, Signature.ofFunction, params, result]

theorem delegate (crosses : f.Crosses) :
    Managed.Delegate.ofFunction f = (Signature.ofFunction f).delegate := by
  have params : f.args.map Managed.Delegate.paramOfArgument =
      (f.args.map Exports.Param.ofArgument).map fun param =>
        { type := Managed.typeName param.type, name := param.name } := by
    rw [List.map_map]
    apply List.map_congr_left
    intro arg member
    have param : Managed.Delegate.paramOfArgument arg =
        { type := Managed.typeName arg.abiType, name := arg.name } := by
      rw [← (crosses.args arg member).managed]
      rfl
    rw [param, Function.comp_apply, Exports.Param.ofArgument]
    cases arg.typeClass <;> rfl
  have result :
      (if f.returnsSelf then "void"
        else Managed.crossingType f.result.abiType f.result.typeClass) =
        Managed.typeName f.result.abiType := by
    split
    · rename_i returns
      rw [crosses.returnsSelf returns]
      rfl
    · exact crosses.managed
  simp only [Managed.Delegate.ofFunction, Signature.delegate, Signature.ofFunction, params, result]

end Function.Crosses

end HeaderBindings
