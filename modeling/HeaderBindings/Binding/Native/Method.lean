import HeaderBindings.Binding.Lifecycle
import HeaderBindings.Binding.Template

/-!
# Methods of the native wrapper

The C++ wrapper has one method for each function.  A method holds a pointer to the exported
function, which is loaded at the first call, and converts between the types of its callers and those
of the binary interface.
-/

namespace HeaderBindings.Native

open Binding

/-- The type in which a caller receives the result of a function. -/
def receivedType (c : Class) (f : Function) : String :=
  if f.returnsSelf then
    let name := c.name
    s!"std::shared_ptr<{name}>"
  else
    match f.result.typeClass with
    | .refCounted className => s!"std::shared_ptr<{className}>"
    | .object className true => s!"godot::Ref<{className}>"
    | .object className false => s!"{className} *"
    | .enumeration owner name _ => qualifiedName owner name
    | _ => f.result.abiType

/-- A parameter with the declaration of its type and name. -/
structure Param where
  declared : String
  name : String
  default : Option String := none
  deriving Repr, DecidableEq

/-- The declaration of the parameter for an argument, without the default. -/
def declare (arg : Argument) : String :=
  let name := arg.name
  match arg.typeClass with
  | .refCounted className => s!"const std::shared_ptr<{className}> &{name}"
  | .object className true => s!"const godot::Ref<{className}> &{name}"
  | .object className false => s!"const {className} *{name}"
  | .enumeration owner enumName _ => qualifiedName owner enumName ++ " " ++ name
  | _ =>
    if Text.endsWith arg.abiType "*" then declaration arg.abiType name
    else
      let bare := Text.dropHead arg.abiType "const "
      s!"const {bare} &{name}"

/-- The parameter for an argument. -/
def Param.ofArgument (arg : Argument) : Param :=
  ⟨declare arg, arg.name, arg.default⟩

/-- The text of a parameter. -/
def Param.text (param : Param) : String :=
  match param.default with
  | some default => param.declared ++ " = " ++ default
  | none => param.declared

/-- A parameter type of a function pointer. -/
structure PointerParam where
  type : String
  /-- The engine class that an instance number stands for. -/
  engineClass : Option String
  deriving Repr, DecidableEq

/-- The type in which an argument crosses the binary interface. -/
def PointerParam.ofArgument (arg : Argument) : PointerParam :=
  match arg.typeClass with
  | .object className _ => ⟨arg.abiType, some className⟩
  | _ => ⟨arg.abiType, none⟩

/-- The text of a parameter type. -/
def PointerParam.text : PointerParam → String
  | ⟨type, some className⟩ => s!"{type} /*{className}*/"
  | ⟨type, none⟩ => type

/-- The pointer to an exported function. -/
structure Pointer where
  symbol : String
  resultType : String
  params : List PointerParam
  deriving Repr, DecidableEq

/-- The pointer to the exported function of a function. -/
def Pointer.ofFunction (f : Function) : Pointer where
  symbol := f.symbol
  resultType := if f.returnsSelf then "void" else f.result.abiType
  params := f.args.map PointerParam.ofArgument

/-- The definition of a function pointer. -/
def Pointer.text (pointer : Pointer) : String :=
  let result := declaration pointer.resultType ""
  let symbol := pointer.symbol
  let params := Text.joinWith ", " (pointer.params.map PointerParam.text)
  s!"static {result}(*{symbol})({params}) = nullptr;"

/-- The expression that is passed for an argument. -/
def pass (arg : Argument) : String :=
  let name := arg.name
  match arg.typeClass with
  | .refCounted _ => s!"{name} ? (void *)*{name} : nullptr"
  | .object _ true => s!"{name}.is_valid() ? {name}->get_instance_id() : 0"
  | .object _ false => s!"{name} ? {name}->get_instance_id() : 0"
  | .enumeration _ _ underlying => s!"static_cast<{underlying}>({name})"
  | _ => name

/-- The value that stands for a result while there is none. -/
def absentResult (result : String) (f : Function) : String :=
  if Text.endsWith result "*" || f.result.typeClass.isHandle then "nullptr" else "\x7b\x7d"

/-- The call of an exported function: a macro, which loads the function first, with what it needs to
convert the result. -/
structure Call where
  operation : String
  /-- The symbol, the class of the result and the absent result, as far as they are needed. -/
  lead : List String
  passed : List String
  /-- The receiver is returned afterwards. -/
  returnsSelf : Bool
  deriving Repr, DecidableEq

/-- The call behind a function whose result the caller receives as `result`. -/
def Call.ofFunction (result : String) (f : Function) : Call :=
  let absent := absentResult result f
  let (operation, lead) :=
    if f.returnsSelf then ("LOAD_AND_CALL_FUNC_POINTER_SELFRET", [])
    else if f.returnsVoid then ("LOAD_AND_CALL_FUNC_POINTER", [])
    else
      match f.result.typeClass with
      | .refCounted className =>
        ("LOAD_AND_CALL_FUNC_POINTER_RET_REF_TO_SHARED", [className, absent])
      | .object className true =>
        ("LOAD_AND_CALL_FUNC_POINTER_RET_GODOT_REF", [className, absent])
      | .object className false =>
        ("LOAD_AND_CALL_FUNC_POINTER_RET_GODOT_OBJECT", [className, absent])
      | .enumeration owner name _ =>
        ("LOAD_AND_CALL_FUNC_POINTER_RET_CAST", [qualifiedName owner name, absent])
      | _ => ("LOAD_AND_CALL_FUNC_POINTER_RET", [absent])
  { operation, lead := f.symbol :: lead, passed := f.args.map pass, returnsSelf := f.returnsSelf }

/-- The statements of a call. -/
def Call.lines (call : Call) : List String :=
  let operation := call.operation
  let lead := Text.joinWith ", " call.lead
  let passed := Text.joinWith ", " call.passed
  let all := if passed.isEmpty then lead else lead ++ ", " ++ passed
  s!"{operation}({all});" :: if call.returnsSelf then ["return shared_from_this();"] else []

/-- A method of the wrapper. -/
structure Method where
  isStatic : Bool
  resultType : String
  name : String
  params : List Param
  pointer : Pointer
  call : Call
  /-- What a disabled call returns; `none` where calls always go through. -/
  disabled : Option String
  deriving Repr, DecidableEq

/-- The method for a function of a class.  The receiver is a parameter only of the functions that
manage an instance. -/
def Method.ofFunction (c : Class) (f : Function) : Method :=
  let isMember := !c.isSingleton && !f.isPrivate
  let result := receivedType c f
  let absent := absentResult result f
  { isStatic := !isMember
    resultType := result
    name := f.publicName
    params := (if isMember then f.valueArgs else f.args).map Param.ofArgument
    pointer := .ofFunction f
    call := .ofFunction result f
    disabled :=
      if c.mayDisable f then some (if f.returnsVoid then "return;" else s!"return {absent};")
      else none }

/-- The first line of a method. -/
def headLine (isStatic : Bool) (result name : String) (params : List Param) : String :=
  let params := Text.joinWith ", " (params.map Param.text)
  let declared := declaration result s!"{name}({params})"
  if isStatic then s!"static {declared} \x7b" else s!"{declared} \x7b"

/-- The lines that leave a method early while calls are disabled. -/
def disabledLines (apiName indent leave : String) : List String := [
  s!"#ifdef _{apiName}_COMPILETIME_CHECK_ENABLED",
  s!"{indent}\tif (!_{apiName}_Loader_::is_call_enabled())",
  s!"{indent}\t\t{leave}",
  "#endif"]

/-- The lines of a method. -/
def Method.lines (apiName indent : String) (m : Method) : List String :=
  (indent ++ headLine m.isStatic m.resultType m.name m.params) ::
    (indent ++ "\t" ++ m.pointer.text) ::
    (match m.disabled with
      | some leave => disabledLines apiName indent leave
      | none => []) ++
    m.call.lines.map (fun line => indent ++ "\t" ++ line) ++
    [indent ++ "\x7d"]

end HeaderBindings.Native
