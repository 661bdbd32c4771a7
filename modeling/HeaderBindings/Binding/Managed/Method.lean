import HeaderBindings.Binding.Lifecycle
import HeaderBindings.Binding.Managed.Default
import HeaderBindings.Binding.Managed.Docs
import HeaderBindings.Binding.Template

/-!
# Methods of the managed wrapper

The C# wrapper has one method for each function.  A method loads the exported function into a
delegate at the first call, passes containers by pinning them, and converts the result.
-/

namespace HeaderBindings.Managed

open Binding

/-- Puts a line at a level of nesting; empty lines and conditional directives stay at the margin. -/
def nest (level : Nat) (line : String) : String :=
  if line.isEmpty || Text.startsWith line "#" then line
  else .ofList (List.replicate (4 * level) ' ') ++ line

/-- The class of the generated names that load functions. -/
def loaderName (apiName : String) : String :=
  "Internal" ++ apiName ++ "ApiLoaderUtils_"

/-- A parameter of a method. -/
structure Param where
  type : String
  name : String
  default : Option String := none
  deriving Repr, DecidableEq

/-- The declaration of a parameter. -/
def Param.text (param : Param) : String :=
  let declared := param.type ++ " " ++ param.name
  match param.default with
  | some default => declared ++ " = " ++ default
  | none => declared

/-- A read-only field that holds a default value. -/
structure Field where
  type : String
  name : String
  value : String
  deriving Repr, DecidableEq

/-- The declaration of a field. -/
def Field.text (field : Field) : String :=
  let type := field.type
  let name := field.name
  let value := field.value
  s!"public static readonly {type} {name} = {value};"

/-- A local variable that keeps a container in place during a call. -/
inductive Pin where
  | array (group : String)
  | text (group : String)
  deriving Repr, DecidableEq

/-- The name of a local variable. -/
def Pin.name : Pin → String
  | .array group => group ++ "_handle"
  | .text group => group ++ "_ptr"

/-- The statement that declares a local variable. -/
def Pin.declare (pin : Pin) : String :=
  let name := pin.name
  match pin with
  | .array group => s!"GCHandle {name} = GCHandle.Alloc({group}, GCHandleType.Pinned);"
  | .text group => s!"IntPtr {name} = Marshal.StringToCoTaskMemUTF8({group});"

/-- The statement that releases a local variable. -/
def Pin.release (pin : Pin) : String :=
  let name := pin.name
  match pin with
  | .array _ => s!"{name}.Free();"
  | .text _ => s!"Marshal.FreeCoTaskMem({name});"

/-- What an argument adds to a method. -/
structure Share where
  param : Option Param := none
  pin : Option Pin := none
  field : Option Field := none
  /-- The expression that is passed to the exported function. -/
  passed : String
  deriving Repr, DecidableEq

/-- What a raw argument of an array group adds. -/
def Share.ofGroup (arg : String) : ArrayGroup → Share
  | .data group dataArg _ elementType =>
    if dataArg == arg then
      { param := some { type := typeName elementType ++ "[]", name := group }
        pin := some (.array group)
        passed := (Pin.array group).name ++ ".AddrOfPinnedObject()" }
    else
      { passed := s!"(ulong){group}.Length" }
  | .text group _ =>
    { param := some { type := "string", name := group }
      pin := some (.text group)
      passed := (Pin.text group).name }

/-- The expression that passes a value of an argument. -/
def pass (arg : Argument) (value : String) : String :=
  if arg.isInstance then value
  else
    match arg.typeClass with
    | .refCounted _ => s!"{value}?.InstPtr ?? IntPtr.Zero"
    | .object .. => s!"{value}?.GetInstanceId() ?? 0"
    | .enumeration _ _ underlying =>
      let type := typeName underlying
      s!"({type}){value}"
    | _ => value

/-- What an argument outside array groups adds to the method of an exported symbol. -/
def Share.ofSingle (enums : EnumTable) (loader symbol : String) (arg : Argument) : Share :=
  let type := if arg.isInstance then pointerType else visibleType arg.type arg.typeClass
  let name := arg.name
  match arg.default.map (Default.ofText enums arg) with
  | none => { param := some { type, name }, passed := pass arg name }
  | some (.constant default) =>
    { param := some { type, name, default := some default }, passed := pass arg name }
  | some (.hoisted type value) =>
    let field := symbol ++ "_" ++ name
    { param := some { type := type ++ "?", name, default := some "null" }
      field := some { type, name := field, value }
      passed := pass arg s!"({name} ?? {loader}.{field})" }

/-- What an argument of a function adds. -/
def Share.ofArgument (enums : EnumTable) (loader : String) (f : Function) (arg : Argument) :
    Share :=
  match f.groupOf? arg.name with
  | some group => .ofGroup arg.name group
  | none => .ofSingle enums loader f.symbol arg

/-- What becomes of the result of an exported function. -/
inductive Received where
  | nothing
  | same
  | wrapped (className : String)
  | engineObject (type : String)
  | constant (path : String)
  deriving Repr, DecidableEq

/-- What becomes of the result of a function. -/
def Received.ofFunction (f : Function) : Received :=
  if f.returnsSelf || f.returnsVoid then .nothing
  else
    match f.result.typeClass with
    | .refCounted className => .wrapped className
    | .object className _ => .engineObject (typeName className)
    | .enumeration owner name _ => .constant (enumPath owner name)
    | _ => .same

/-- The statement that makes a call and returns its result. -/
def Received.statement (call : String) : Received → String
  | .nothing => s!"{call};"
  | .same => s!"return {call};"
  | .wrapped className => s!"return new {className}({call});"
  | .engineObject type => s!"return ({type})GodotObject.InstanceFromId({call});"
  | .constant path => s!"return ({path}){call};"

/-- The delegate of an exported function. -/
structure Delegate where
  symbol : String
  resultType : String
  params : List Param
  deriving Repr, DecidableEq

/-- The type in which an argument crosses the binary interface. -/
def Delegate.paramOfArgument (arg : Argument) : Param where
  type := if arg.isInstance then pointerType else crossingType arg.abiType arg.typeClass
  name := arg.name

/-- The delegate of a function. -/
def Delegate.ofFunction (f : Function) : Delegate where
  symbol := f.symbol
  resultType :=
    if f.returnsSelf then "void" else crossingType f.result.abiType f.result.typeClass
  params := f.args.map paramOfArgument

/-- The declaration of a parameter of a delegate; a boolean takes one byte. -/
def delegateParam (param : Param) : String :=
  if param.type == "bool" then "[MarshalAs(UnmanagedType.I1)] " ++ param.text else param.text

/-- The declarations of a delegate, of the loaded function and of the outcome of loading it. -/
def Delegate.lines (apiName : String) (d : Delegate) : List String :=
  let symbol := d.symbol
  let result := d.resultType
  let params := Text.joinWith ", " (d.params.map delegateParam)
  "[UnmanagedFunctionPointer(CallingConvention.Cdecl)]" ::
    (if d.resultType == "bool" then ["[return: MarshalAs(UnmanagedType.I1)]"] else []) ++
    [s!"private delegate {result} dlgt_{symbol}({params});",
      s!"private static dlgt_{symbol} func_{symbol};",
      s!"private static {apiName}FuncLoadingResult func_{symbol}_result;"]

/-- A method of the wrapper. -/
structure Method where
  docs : List String
  modifiers : String
  resultType : String
  name : String
  /-- Whether the wrapped instance is passed first. -/
  passesInstance : Bool
  shares : List Share
  received : Received
  /-- What is returned where no result was. -/
  fallback : Option String
  /-- Whether the call is left out while calls are disabled. -/
  mayDisable : Bool
  delegate : Delegate
  deriving Repr, DecidableEq

namespace Method

/-- The parameters of a method. -/
def params (m : Method) : List Param :=
  m.shares.filterMap Share.param

/-- The local variables of a method. -/
def pins (m : Method) : List Pin :=
  m.shares.filterMap Share.pin

/-- The fields that a method needs. -/
def fields (m : Method) : List Field :=
  m.shares.filterMap Share.field

/-- The expressions that a method passes. -/
def passed (m : Method) : List String :=
  (if m.passesInstance then ["inst_ptr"] else []) ++ m.shares.map Share.passed

/-- The modifiers of the method for a function of a class. -/
def modifiersOf (c : Class) (f : Function) : String :=
  if f.isPrivate then "private static" else if c.isSingleton then "public static" else "public"

/-- The statement that stands for the result of a function where no call was made. -/
def fallbackOf (f : Function) : Option String :=
  if f.returnsSelf then some "return this;"
  else if f.returnsVoid then none
  else some "return default;"

/-- The method for a function of a class. -/
def ofFunction (enums : EnumTable) (apiName : String) (c : Class) (f : Function) :
    Except DocsError Method := do
  let isMember := !c.isSingleton && !f.isPrivate
  let shares :=
    (if isMember then f.valueArgs else f.args).map
      (Share.ofArgument enums (loaderName apiName) f)
  let docs ← xmlDocs ((shares.filterMap Share.param).map Param.name) f.docs
  pure {
    docs
    modifiers := modifiersOf c f
    resultType :=
      if f.returnsSelf then c.name else visibleType f.result.type f.result.typeClass
    name := Text.pascal (f.wrapperName?.getD f.publicName)
    passesInstance := isMember
    shares
    received := .ofFunction f
    fallback := fallbackOf f
    mayDisable := c.mayDisable f
    delegate := .ofFunction f }

/-- The statement that calls the exported function. -/
def call (m : Method) : String :=
  let symbol := m.delegate.symbol
  let passed := Text.joinWith ", " m.passed
  m.received.statement s!"func_{symbol}({passed})"

/-- The statements of a call; what is pinned for it is released in any case. -/
def callLines (m : Method) : List String :=
  if m.pins.isEmpty then [m.call]
  else
    m.pins.map Pin.declare ++ ["try", "\x7b", nest 1 m.call, "\x7d", "finally", "\x7b"] ++
      m.pins.map (fun pin => nest 1 pin.release) ++ ["\x7d"]

/-- The condition that the exported function is loaded. -/
def loadLine (m : Method) (loader : String) : String :=
  let symbol := m.delegate.symbol
  s!"if ({loader}.LoadFunction(\"{symbol}\", ref func_{symbol}, ref func_{symbol}_result))"

/-- The first line of a method. -/
def headLine (m : Method) : String :=
  let modifiers := m.modifiers
  let result := m.resultType
  let name := m.name
  let params := Text.joinWith ", " (m.params.map Param.text)
  s!"{modifiers} {result} {name}({params})"

/-- The body of a method. -/
def bodyLines (apiName : String) (m : Method) : List String :=
  let loader := loaderName apiName
  let guarded := [nest 1 (m.loadLine loader), nest 1 "\x7b"] ++
    m.callLines.map (nest 2) ++ [nest 1 "\x7d"]
  let leave := m.fallback.getD "return;"
  (if m.mayDisable then
      [s!"#if _{apiName}_RUNTIME_CHECK_ENABLED", nest 1 s!"if (!{loader}.IsCallEnabled) {leave}",
        "#endif", s!"#if _{apiName}_COMPILETIME_CHECK_ENABLED"] ++ guarded ++ ["#endif"]
    else
      guarded) ++
    (m.fallback.map (nest 1)).toList

/-- The lines of a method and of its delegate. -/
def lines (apiName : String) (m : Method) : List String :=
  m.docs.map ("/// " ++ ·) ++ [m.headLine, "\x7b"] ++ m.bodyLines apiName ++ ["\x7d", ""] ++
    m.delegate.lines apiName

end Method

end HeaderBindings.Managed
