import HeaderBindings.Binding.Template
import HeaderBindings.Model.Signature

/-!
# Exported functions

The plugin's side of the binary interface: one exported C function for each function of a class, and
for every class with instances a structure that wraps an instance, with the functions that make and
drop wrappers.
-/

namespace HeaderBindings.Exports

open Binding

/-- The name of the structure that wraps an instance of a class. -/
def wrapperName (className : String) : String :=
  className ++ "_NAPIWrapper"

/-- The name of the set of wrappers that are alive. -/
def storageName (className : String) : String :=
  wrapperName className ++ "_storage"

/-- The name of the function that wraps a counted reference. -/
def wrapReferenceName (className : String) : String :=
  className ++ "_create_from_ref"

/-- The wrapper structure of a class, with its lifecycle functions. -/
structure Wrapper where
  className : String
  /-- Whether instances are held through a counted reference. -/
  isCounted : Bool
  deriving Repr, DecidableEq

namespace Wrapper

/-- The definition of the structure and of the set of wrappers. -/
def structureLines (w : Wrapper) : List String :=
  let c := w.className
  let name := wrapperName c
  let storage := storageName c
  let members :=
    if w.isCounted then [s!"\tRef<{c}> ref;"]
    else [s!"\t{c} *ptr = nullptr;", "", s!"\t~{name}() \x7b", "\t\tif (ptr) \x7b",
      "\t\t\tmemdelete(ptr);", "\t\t\x7d", "\t\x7d"]
  s!"struct {name} \x7b" :: members ++
    ["\x7d;", "", s!"static std::unordered_set<{name} *> {storage};", ""]

/-- A function that makes a wrapper from `value` and returns it. -/
def makerLines (w : Wrapper) (signature value : String) : List String :=
  let storage := storageName w.className
  [s!"{signature} \x7b", "\tZoneScoped;", s!"\tauto *inst_ptr = {value};",
    s!"\t{storage}.insert(inst_ptr);", "\treturn inst_ptr;", "\x7d", ""]

/-- The functions that make a wrapper: around a new instance, around none, and, where references are
counted, around a given one. -/
def makersLines (w : Wrapper) : List String :=
  let c := w.className
  let name := wrapperName c
  let fresh :=
    if w.isCounted then s!"new {name}\x7b Ref<{c}>(memnew({c})) \x7d"
    else s!"new {name}\x7b memnew({c}) \x7d"
  let wrapReference := wrapReferenceName c
  w.makerLines s!"extern \"C\" static void *{c}_create()" fresh ++
    w.makerLines s!"extern \"C\" static void *{c}_create_nullptr()" s!"new {name}\x7b\x7d" ++
    if w.isCounted then
      w.makerLines s!"static void *{wrapReference}(Ref<{c}> ref)" s!"new {name}\x7b ref \x7d"
    else
      []

/-- The function that drops a wrapper; a pointer that is not among the live wrappers is ignored. -/
def destroyLines (w : Wrapper) : List String :=
  let c := w.className
  let name := wrapperName c
  let storage := storageName c
  let found := s!"const auto it = {storage}.find(static_cast<{name} *>(inst_ptr))"
  [s!"extern \"C\" static void {c}_destroy(void *inst_ptr) \x7b", "\tZoneScoped;",
    s!"\tif ({found}; it != {storage}.end()) \x7b", s!"\t\t{name} *wrapper = *it;",
    s!"\t\t{storage}.erase(it);", "\t\tdelete wrapper;", "\t\x7d", "\x7d", ""]

/-- All that is defined for a wrapper. -/
def lines (w : Wrapper) : List String :=
  w.structureLines ++ w.makersLines ++ w.destroyLines

/-- The symbols that are registered for a wrapper. -/
def symbols (w : Wrapper) : List String :=
  ["create", "create_nullptr", "destroy"].map fun name => w.className ++ "_" ++ name

/-- The lines that register the lifecycle functions and the structure. -/
def registrations (w : Wrapper) : List String :=
  let name := wrapperName w.className
  w.symbols.map (fun symbol => s!"\t\tADD_FUNC({symbol});") ++ [s!"\t\tADD_CLASS({name});"]

/-- The line that drops all wrappers of a class. -/
def clearLine (w : Wrapper) : String :=
  let c := w.className
  let storage := storageName c
  s!"\tCLEAR_REFS({c}, {storage});"

end Wrapper

/-- The wrapper of a class with instances. -/
def Wrapper.ofClass? (c : Class) : Option Wrapper :=
  match c.kind with
  | .singleton => none
  | .refcounted => some ⟨c.name, true⟩
  | .regular => some ⟨c.name, false⟩

/-- A parameter of an exported function. -/
structure Param where
  type : String
  /-- The engine class that an instance number stands for. -/
  engineClass : Option String
  name : String
  deriving Repr, DecidableEq

/-- The parameter through which an argument crosses the binary interface. -/
def Param.ofArgument (arg : Argument) : Param :=
  match arg.typeClass with
  | .object className _ => ⟨arg.abiType, some className, arg.name⟩
  | _ => ⟨arg.abiType, none, arg.name⟩

/-- The declaration of a parameter. -/
def Param.text (param : Param) : String :=
  match param with
  | ⟨type, some className, name⟩ => s!"{type} /*{className}*/ {name}"
  | ⟨type, none, name⟩ => declaration type name

/-- What a method is called on. -/
inductive Receiver where
  /-- The global instance of a class. -/
  | global (className : String)
  /-- The instance that the first parameter wraps. -/
  | wrapped (className : String) (isCounted : Bool)
  deriving Repr, DecidableEq

/-- The receiver of the methods of a class. -/
def Receiver.ofClass (c : Class) : Receiver :=
  match c.kind with
  | .singleton => .global c.name
  | .refcounted => .wrapped c.name true
  | .regular => .wrapped c.name false

/-- The expression for a receiver. -/
def Receiver.text : Receiver → String
  | .global className => s!"{className}::get_singleton()"
  | .wrapped className isCounted =>
    let name := wrapperName className
    let member := if isCounted then "ref" else "ptr"
    s!"static_cast<{name} *>(inst_ptr)->{member}"

/-- How a parameter is passed on to a method. -/
inductive Passed where
  | same (name : String)
  /-- The reference that a wrapper holds, or the empty reference. -/
  | unwrapped (className name : String)
  /-- The engine object of an instance number. -/
  | engineObject (className : String) (byReference : Bool) (name : String)
  /-- The enum constant of an integer. -/
  | constant (owner enumName name : String)
  deriving Repr, DecidableEq

/-- How the parameter of an argument is passed on. -/
def Passed.ofArgument (arg : Argument) : Passed :=
  match arg.typeClass with
  | .refCounted className => .unwrapped className arg.name
  | .object className byReference => .engineObject className byReference arg.name
  | .enumeration owner enumName _ => .constant owner enumName arg.name
  | _ => .same arg.name

/-- The expression that is passed on. -/
def Passed.text : Passed → String
  | .same name => name
  | .unwrapped className name =>
    let wrapper := wrapperName className
    s!"({name} ? static_cast<{wrapper} *>({name})->ref : Ref<{className}>())"
  | .engineObject c true name =>
    s!"godot::Ref<{c}>(godot::Object::cast_to<{c}>(godot::ObjectDB::get_instance({name})))"
  | .engineObject c false name =>
    s!"godot::Object::cast_to<{c}>(godot::ObjectDB::get_instance({name}))"
  | .constant owner enumName name => s!"static_cast<{owner}::{enumName}>({name})"

/-- What becomes of the result of a method. -/
inductive Handed where
  | nothing
  | same
  /-- A counted reference is wrapped. -/
  | wrapped (className : String)
  /-- An engine object is handed out by its instance number. -/
  | instanceNumber (byReference : Bool)
  /-- An enum constant is handed out as an integer. -/
  | integer (type : String)
  deriving Repr, DecidableEq

/-- What becomes of the result of a function. -/
def Handed.ofFunction (f : Function) : Handed :=
  if f.returnsVoid then .nothing
  else
    match f.result.typeClass with
    | .refCounted className => .wrapped className
    | .object _ byReference => .instanceNumber byReference
    | .enumeration _ _ underlying => .integer underlying
    | _ => .same

/-- The statements that make a call and hand out its result. -/
def Handed.lines (call : String) : Handed → List String
  | .nothing => [s!"\t{call};"]
  | .same => [s!"\treturn {call};"]
  | .wrapped className =>
    let wrapReference := wrapReferenceName className
    [s!"\treturn {wrapReference}({call});"]
  | .instanceNumber byReference =>
    let valid := if byReference then "res.is_valid()" else "res"
    [s!"\tconst auto res = {call};",
      s!"\treturn {valid} ? static_cast<uint64_t>(res->get_instance_id()) : 0;"]
  | .integer type => [s!"\treturn static_cast<{type}>({call});"]

/-- An exported function. -/
structure Definition where
  symbol : String
  resultType : String
  params : List Param
  receiver : Receiver
  method : String
  passed : List Passed
  handed : Handed
  deriving Repr, DecidableEq

/-- The exported function of a function of a class. -/
def Definition.ofFunction (c : Class) (f : Function) : Definition where
  symbol := f.symbol
  resultType := f.result.abiType
  params := f.args.map Param.ofArgument
  receiver := .ofClass c
  method := f.name
  passed := f.valueArgs.map Passed.ofArgument
  handed := .ofFunction f

/-- The call of the method behind an exported function. -/
def Definition.call (d : Definition) : String :=
  let receiver := d.receiver.text
  let method := d.method
  let passed := Text.joinWith ", " (d.passed.map Passed.text)
  s!"{receiver}->{method}({passed})"

/-- The definition of an exported function. -/
def Definition.lines (d : Definition) : List String :=
  let head := declaration d.resultType d.symbol
  let params := Text.joinWith ", " (d.params.map Param.text)
  s!"extern \"C\" static {head}({params}) \x7b" :: "\tZoneScoped;" ::
    d.handed.lines d.call ++ ["\x7d", ""]

/-- The line that registers an exported function. -/
def Definition.registration (d : Definition) : String :=
  let symbol := d.symbol
  s!"\t\tADD_FUNC({symbol});"

/-- The exported side of an interface. -/
structure Source where
  wrappers : List Wrapper
  definitions : List Definition
  deriving Repr, DecidableEq

/-- The exported side of an interface: the wrappers of all classes come before the functions, so
that a function may refer to the wrapper of any class. -/
def Source.ofApi (api : Api) : Source where
  wrappers := api.classes.filterMap Wrapper.ofClass?
  definitions := api.classes.flatMap fun c => c.functions.map (Definition.ofFunction c)

/-- What the exported side is generated with, besides the interface. -/
structure Options where
  template : String
  marker : String
  /-- The plugin headers, from the source folder. -/
  headers : List String
  /-- The engine classes to include. -/
  engineIncludes : List String
  deriving Repr, DecidableEq

/-- The include line of a plugin header. -/
def pluginInclude (header : String) : String :=
  let path := Text.replaceAll header "\\" "/"
  s!"#include \"{path}\""

/-- The blocks of the exported side. -/
def Source.blocks (source : Source) (options : Options) : List Block := [
  ⟨"_API_INCLUDES", options.headers.map pluginInclude⟩,
  ⟨"_GODOT_API_INCLUDES", options.engineIncludes.map engineInclude⟩,
  ⟨"_FUNCTIONS",
    source.wrappers.flatMap Wrapper.lines ++ source.definitions.flatMap Definition.lines⟩,
  ⟨"_REGISTRATIONS",
    source.wrappers.flatMap Wrapper.registrations ++
      source.definitions.map Definition.registration⟩,
  ⟨"_REFS_CLEAR", source.wrappers.map Wrapper.clearLine⟩]

/-- The name of the exported side in messages. -/
def bindingName : String := "C API"

/-- The text of the exported side. -/
def generate (api : Api) (options : Options) : Except MissingMark String :=
  fill options.marker options.template ((Source.ofApi api).blocks options)

end HeaderBindings.Exports
