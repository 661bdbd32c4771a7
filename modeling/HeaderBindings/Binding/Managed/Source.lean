import HeaderBindings.Binding.Managed.Method

/-!
# The managed wrapper

The C# source: a static class for every class with one global instance, and a disposable class for
every other.
-/

namespace HeaderBindings.Managed

open Binding

/-- Why there is no managed wrapper. -/
inductive Failure where
  | classDocs (className : String) (error : DocsError)
  | methodDocs (className function : String) (error : DocsError)
  | missingMark (missing : MissingMark)
  /-- The wrapper is not defined for the model. -/
  | fault (fault : Fault)
  deriving Repr, DecidableEq

/-- The name of the managed wrapper in messages. -/
def bindingName : String := "C# API"

/-- The wording of a failure; a fault has none. -/
def Failure.message? : Failure → Option String
  | .classDocs className error => some (s!"generating C# class `{className}`: " ++ error.message)
  | .methodDocs className function error =>
    some (s!"generating C# class `{className}`: in `{function}`: " ++ error.message)
  | .missingMark missing => some (missing.messageIn bindingName)
  | .fault _ => none

/-- A member of an enum. -/
structure EnumMember where
  name : String
  value : String
  deriving Repr, DecidableEq

/-- An enum of a class. -/
structure EnumDefinition where
  name : String
  underlying : String
  members : List EnumMember
  deriving Repr, DecidableEq

/-- An integer literal without its suffix; any other word as it is. -/
def dropLiteralSuffix (word : List Char) : List Char :=
  let digits := Text.dropEndWhile Text.isIntegerSuffix word
  let isInteger :=
    match digits with
    | '0' :: 'x' :: rest => !rest.isEmpty && rest.all Text.isHexDigit
    | '0' :: 'X' :: rest => !rest.isEmpty && rest.all Text.isHexDigit
    | _ => !digits.isEmpty && digits.all Char.isDigit
  if isInteger then digits else word

/-- A constant of an enum under its C# name; any other word as it is. -/
def renameConstant (names : EnumNames) (word : List Char) : List Char :=
  if word.head?.any fun c => c.isAlpha || c == '_' then
    ((names.constant? (.ofList word)).map String.toList).getD word
  else
    word

/-- The value of a constant in C#. -/
def constantValue (names : EnumNames) (value : String) : String :=
  let unsuffixed := Text.mapWords dropLiteralSuffix value.toList
  .ofList (Text.mapWords (renameConstant names) unsuffixed)

/-- The member of a constant. -/
def EnumMember.ofConstant (names : EnumNames) (owner enumName : String) (constant : EnumConstant) :
    Except Fault EnumMember :=
  match names.constant? constant.name with
  | some name => .ok ⟨name, constantValue names constant.value⟩
  | none => .error (.unlistedConstant owner enumName constant.name)

/-- The enum of an enum of a class, under the names in the table. -/
def EnumDefinition.ofEnum (enums : EnumTable) (owner : String) (e : EnumType) :
    Except Fault EnumDefinition := do
  match enums.find? owner e.name with
  | none => .error (.unlistedEnum owner e.name)
  | some names => pure {
      name := e.name
      underlying := typeName e.underlying
      members := ← e.constants.mapM (EnumMember.ofConstant names owner e.name) }

/-- The lines of an enum. -/
def EnumDefinition.lines (e : EnumDefinition) : List String :=
  let name := e.name
  let underlying := e.underlying
  [s!"public enum {name} : {underlying}", "\x7b"] ++
    e.members.map (fun member =>
      let name := member.name
      let value := member.value
      nest 1 s!"{name} = {value},") ++
    ["\x7d"]

/-- A property of a class. -/
structure PropertyDefinition where
  isStatic : Bool
  type : String
  name : String
  /-- The method that `get` calls. -/
  getter : String
  /-- The method that `set` calls. -/
  setter : String
  deriving Repr, DecidableEq

/-- The method name of a function of a class. -/
def methodName (c : Class) (function : String) : String :=
  Text.pascal (((c.function? function).map Function.publicName).getD function)

/-- The property of a property of a class. -/
def PropertyDefinition.ofProperty (c : Class) (property : Property) : PropertyDefinition where
  isStatic := c.isSingleton
  type := visibleType property.valueType.type property.valueType.typeClass
  name := Text.pascal property.name
  getter := methodName c property.getter
  setter := methodName c property.setter

/-- The lines of a property. -/
def PropertyDefinition.lines (p : PropertyDefinition) : List String :=
  let modifiers := if p.isStatic then "public static" else "public"
  let type := p.type
  let name := p.name
  let getter := p.getter
  let setter := p.setter
  [s!"{modifiers} {type} {name}", "\x7b", nest 1 s!"get => {getter}();",
    nest 1 s!"set => {setter}(value);", "\x7d"]

/-- A class of the wrapper. -/
structure ClassDefinition where
  docs : List String
  name : String
  isStatic : Bool
  enums : List EnumDefinition
  properties : List PropertyDefinition
  methods : List Method
  deriving Repr, DecidableEq

/-- The method of a function, with its place in messages. -/
def methodOf (enums : EnumTable) (apiName : String) (c : Class) (f : Function) :
    Except Failure Method :=
  (Method.ofFunction enums apiName c f).mapError (.methodDocs c.name f.name)

/-- The class of a class. -/
def ClassDefinition.ofClass (enums : EnumTable) (apiName : String) (c : Class) :
    Except Failure ClassDefinition := do
  pure {
    docs := ← (xmlDocs [] c.docs).mapError (.classDocs c.name)
    name := c.name
    isStatic := c.isSingleton
    enums := ← (c.enums.mapM (EnumDefinition.ofEnum enums c.name)).mapError .fault
    properties := c.properties.map (PropertyDefinition.ofProperty c)
    methods := ← c.functions.mapM (methodOf enums apiName c) }

/-- The lines of the members that hold the wrapped instance and drop it. -/
def instanceLines (name : String) : List String := [
  "IntPtr inst_ptr;",
  "",
  "internal IntPtr InstPtr => inst_ptr;",
  "",
  s!"public {name}(IntPtr inst_ptr)",
  "\x7b",
  nest 1 "this.inst_ptr = inst_ptr;",
  "\x7d",
  "",
  s!"public {name}(bool instantiate = true)",
  "\x7b",
  nest 1 "inst_ptr = instantiate ? Create() : CreateNullptr();",
  "\x7d",
  "",
  s!"~{name}() => Dispose();",
  "",
  "public void Dispose()",
  "\x7b",
  nest 1 "if (inst_ptr != IntPtr.Zero)",
  nest 1 "\x7b",
  nest 2 "Destroy(inst_ptr);",
  nest 2 "inst_ptr = IntPtr.Zero;",
  nest 1 "\x7d",
  nest 1 "GC.SuppressFinalize(this);",
  "\x7d"]

/-- The members of a class, each by its lines. -/
def ClassDefinition.memberLines (apiName : String) (c : ClassDefinition) : List (List String) :=
  c.enums.map EnumDefinition.lines ++
    (if c.isStatic then [] else [instanceLines c.name]) ++
    c.properties.map PropertyDefinition.lines ++
    c.methods.map (Method.lines apiName)

/-- The lines of a class, with an empty line between its members. -/
def ClassDefinition.lines (apiName : String) (c : ClassDefinition) : List String :=
  let name := c.name
  let head := if c.isStatic then s!"public static class {name}" else s!"public class {name} : IDisposable"
  c.docs.map ("/// " ++ ·) ++ [head, "\x7b"] ++
    ([""].intercalate (c.memberLines apiName)).map (nest 1) ++ ["\x7d"]

/-- What the managed wrapper is generated with, besides the interface. -/
structure Options where
  template : String
  marker : String
  /-- The name of the interface in the loader class and in the guards. -/
  apiName : String
  /-- Whether the real type has double precision. -/
  isDouble : Bool
  deriving Repr, DecidableEq

/-- The template with the precision of the real type. -/
def Options.preparedTemplate (options : Options) : String :=
  if options.isDouble then
    Text.replaceAll options.template "using real_t = float;" "using real_t = double;"
  else
    options.template

/-- The classes of the wrapper of an interface that has its lifecycle functions. -/
def classesOf (api : Api) (apiName : String) : Except Failure (List ClassDefinition) := do
  let enums ← (EnumTable.ofApi api).mapError .fault
  api.classes.mapM (ClassDefinition.ofClass enums apiName)

/-- The blocks of some classes. -/
def blocks (apiName : String) (classes : List ClassDefinition) : List Block := [
  ⟨"_API_DEFAULT_VALUES",
    (classes.flatMap fun c => c.methods.flatMap Method.fields).map fun field =>
      indented "    " field.text⟩,
  ⟨"_API_FUNCTIONS",
    "" :: classes.flatMap fun c => c.lines apiName ++ [""]⟩]

/-- The text of the managed wrapper. -/
def generate (api : Api) (options : Options) : Except Failure String := do
  let classes ← classesOf api.withLifecycle options.apiName
  (fill options.marker options.preparedTemplate (blocks options.apiName classes)).mapError
    .missingMark

end HeaderBindings.Managed
