import HeaderBindings.Binding.Native.Overload

/-!
# The native wrapper

The C++ header: a namespace for every class with one global instance, and a class for every other.
The members of a class are a list in which access labels stand between the items they apply to.
-/

namespace HeaderBindings.Native

open Binding

/-- The access that a label gives to the members after it. -/
inductive Access where
  | everyone
  | ownClass
  deriving Repr, DecidableEq

/-- The text of an access label. -/
def Access.label : Access → String
  | .everyone => "public:"
  | .ownClass => "private:"

/-- A part of a class or of a namespace. -/
inductive Item where
  | label (access : Access)
  | enumeration (type : EnumType)
  /-- The pointer to the wrapped instance. -/
  | instancePointer
  /-- The constructors, the destructor and the conversion to the wrapped instance. -/
  | lifetime (className : String)
  | method (docs : List String) (body : Method)
  | overload (docs : List String) (body : Overload)
  deriving Repr, DecidableEq

/-- A documentation comment; without documentation there is none. -/
def docLines (indent : String) (docs : List String) : List String :=
  if docs.isEmpty then []
  else
    (indent ++ "/**") ::
      docs.map (fun line => indent ++ if line.isEmpty then " *" else " * " ++ line) ++
      [indent ++ " */"]

/-- The lines of an enum. -/
def enumLines (indent : String) (e : EnumType) : List String :=
  let name := e.name
  let underlying := e.underlying
  s!"{indent}enum {name} : {underlying} \x7b" ::
    e.constants.map (fun constant =>
      let name := constant.name
      let value := constant.value
      s!"{indent}\t{name} = {value},") ++
    [indent ++ "\x7d;", ""]

/-- The lines of the constructors, the destructor and the conversion of a class. -/
def lifetimeLines (indent name : String) : List String := [
  s!"{indent}{name}(void *inst_ptr) :",
  s!"{indent}\t\tinst_ptr(inst_ptr) \x7b\x7d",
  "",
  s!"{indent}{name}(bool instantiate = true) :",
  s!"{indent}\t\tinst_ptr(instantiate ? create() : create_nullptr()) \x7b\x7d",
  "",
  s!"{indent}~{name}() \x7b destroy(inst_ptr); \x7d",
  "",
  s!"{indent}operator void *() const \x7b return inst_ptr; \x7d",
  ""]

/-- The lines of a part. -/
def Item.lines (apiName indent : String) : Item → List String
  | .label access => [access.label]
  | .enumeration type => enumLines indent type
  | .instancePointer => [indent ++ "void *inst_ptr;", ""]
  | .lifetime className => lifetimeLines indent className
  | .method docs body => docLines indent docs ++ body.lines apiName indent ++ [""]
  | .overload docs body => docLines indent docs ++ body.lines indent ++ [""]

/-- The parts of a function. -/
def functionItems (c : Class) (f : Function) : List Item :=
  .method f.docs (.ofFunction c f) ::
    ((Overload.ofFunction? c f).map (Item.overload f.docs)).toList

/-- The parts of the functions of a class, with a label where the access changes from the one in
effect. -/
def memberItems (c : Class) (current : Access) : List Function → List Item
  | [] => []
  | f :: rest =>
    let access := if f.isPrivate then Access.ownClass else .everyone
    (if access = current then [] else [.label access]) ++ functionItems c f ++
      memberItems c access rest

/-- The parts of a class with instances. -/
def classItems (c : Class) : List Item :=
  c.enums.flatMap (fun e => [.label .everyone, .enumeration e]) ++
    [.label .ownClass, .instancePointer, .label .everyone, .lifetime c.name] ++
    memberItems c .everyone c.functions

/-- The parts of a namespace, which has no access labels. -/
def namespaceItems (c : Class) : List Item :=
  c.enums.map Item.enumeration ++ c.functions.flatMap (functionItems c)

/-- The first line of a class with instances. -/
def classHead (c : Class) : String :=
  let name := c.name
  if c.hasSelfReturn then s!"class {name} : public std::enable_shared_from_this<{name}> \x7b"
  else s!"class {name} \x7b"

/-- The lines of a class. -/
def classLines (apiName : String) (c : Class) : List String :=
  let name := c.name
  docLines "" c.docs ++
    if c.isSingleton then
      s!"namespace {name} \x7b" :: (namespaceItems c).flatMap (Item.lines apiName "") ++
        [s!"\x7d // namespace {name}"]
    else
      classHead c :: (classItems c).flatMap (Item.lines apiName "\t") ++
        [s!"\x7d; // class {name}"]

/-- What the native wrapper is generated with, besides the interface. -/
structure Options where
  template : String
  marker : String
  /-- The name of the interface in the loader class and in the guards. -/
  apiName : String
  /-- The engine classes to include. -/
  engineIncludes : List String
  deriving Repr, DecidableEq

/-- The forward declaration of a class with instances. -/
def forwardLine? (c : Class) : Option String :=
  let name := c.name
  if c.isSingleton then none else some s!"class {name};"

/-- The blocks of the native wrapper of an interface that has its lifecycle functions. -/
def blocks (api : Api) (options : Options) : List Block := [
  ⟨"_API_INCLUDES", options.engineIncludes.map engineInclude⟩,
  ⟨"_API_FORWARD_DECLARATIONS", api.classes.filterMap forwardLine?⟩,
  ⟨"_API_FUNCTIONS",
    "" :: api.classes.flatMap fun c => classLines options.apiName c ++ [""]⟩]

/-- The name of the native wrapper in messages. -/
def bindingName : String := "C++ API"

/-- The text of the native wrapper. -/
def generate (api : Api) (options : Options) : Except MissingMark String :=
  fill options.marker options.template (blocks api.withLifecycle options)

end HeaderBindings.Native
