/-!
# The exposed interface

Classes with their enums, functions and properties, as the headers declare them and as the three
bindings present them.
-/

namespace HeaderBindings

/-- Who owns the instances of a class. -/
inductive ClassKind where
  /-- Owned by its wrapper. -/
  | regular
  /-- One global instance. -/
  | singleton
  /-- Held through a counted reference. -/
  | refcounted
  deriving Repr, DecidableEq

/-- How a declared type crosses the binary interface. -/
inductive TypeClass where
  /-- As it is. -/
  | plain
  /-- A counted reference to a plugin class: an opaque wrapper pointer. -/
  | refCounted (className : String)
  /-- An engine object: its instance number. -/
  | object (className : String) (byReference : Bool)
  /-- A plugin enum: its underlying integer. -/
  | enumeration (owner name underlying : String)
  /-- An engine value type: by value. -/
  | basicValue (type : String)
  deriving Repr, DecidableEq

/-- Raw arguments that a wrapper presents as one container parameter. -/
inductive ArrayGroup where
  /-- A data pointer followed by its element count. -/
  | data (name dataArg sizeArg elementType : String)
  /-- A pointer to text. -/
  | text (name arg : String)
  deriving Repr, DecidableEq

/-- An argument of a function. -/
structure Argument where
  name : String
  type : String
  /-- The type that crosses the binary interface. -/
  abiType : String
  default : Option String := none
  /-- Whether this is the receiver of a method. -/
  isInstance : Bool := false
  typeClass : TypeClass := .plain
  deriving Repr, DecidableEq

/-- The result of a function. -/
structure Return where
  type : String
  abiType : String
  typeClass : TypeClass := .plain
  deriving Repr, DecidableEq

/-- An exposed function of a class. -/
structure Function where
  name : String
  /-- The exported symbol. -/
  symbol : String
  docs : List String := []
  args : List Argument
  result : Return
  /-- Whether the method returns its receiver. -/
  returnsSelf : Bool := false
  isPrivate : Bool := false
  arrayGroups : List ArrayGroup := []
  /-- The method whose documentation this one borrows. -/
  docsFrom : Option String := none
  deriving Repr, DecidableEq

/-- One constant of an enum, with the text of its value. -/
structure EnumConstant where
  name : String
  value : String
  deriving Repr, DecidableEq

/-- An enum of a class. -/
structure EnumType where
  name : String
  underlying : String
  constants : List EnumConstant
  deriving Repr, DecidableEq

/-- The name of an enum together with that of the class that declares it. -/
def qualifiedName (owner name : String) : String :=
  owner ++ "::" ++ name

/-- A pair of a getter and a setter that is presented as one property. -/
structure Property where
  name : String
  getter : String
  setter : String
  valueType : Return
  deriving Repr, DecidableEq

/-- An exposed class. -/
structure Class where
  name : String
  kind : ClassKind
  docs : List String := []
  enums : List EnumType := []
  functions : List Function := []
  properties : List Property := []
  /-- The documentation of methods of the class body that are not exposed, by name. -/
  declaredDocs : List (String × List String) := []
  deriving Repr, DecidableEq

/-- The whole exposed interface, in the order of declaration. -/
structure Api where
  classes : List Class := []
  deriving Repr, DecidableEq

namespace ArrayGroup

/-- The name of the container parameter. -/
def name : ArrayGroup → String
  | .data name .. => name
  | .text name _ => name

/-- Whether a raw argument belongs to the group. -/
def owns : ArrayGroup → String → Bool
  | .data _ dataArg sizeArg _, arg => arg == dataArg || arg == sizeArg
  | .text _ own, arg => arg == own

/-- The raw argument whose place the container parameter takes. -/
def firstArg : ArrayGroup → String
  | .data _ dataArg .. => dataArg
  | .text _ arg => arg

end ArrayGroup

namespace Argument

/-- The receiver of a method. -/
def receiver : Argument :=
  { name := "inst_ptr", type := "void *", abiType := "void *", isInstance := true }

end Argument

namespace Return

/-- No result. -/
def void : Return :=
  { type := "void", abiType := "void" }

end Return

namespace ClassKind

/-- Whether a class of this kind has one global instance. -/
def isSingleton (kind : ClassKind) : Bool :=
  kind == .singleton

end ClassKind

namespace Class

/-- Whether a class has one global instance. -/
def isSingleton (c : Class) : Bool :=
  c.kind.isSingleton

/-- The first function of a name. -/
def function? (c : Class) (name : String) : Option Function :=
  c.functions.find? fun f => f.name == name

/-- Whether some method returns its receiver. -/
def hasSelfReturn (c : Class) : Bool :=
  c.functions.any fun f => f.returnsSelf

/-- Records the documentation of a method, unless the name has some already. -/
def declareDocs (c : Class) (name : String) (docs : List String) : Class :=
  if c.declaredDocs.any fun entry => entry.1 == name then c
  else { c with declaredDocs := c.declaredDocs ++ [(name, docs)] }

end Class

namespace Api

/-- Whether a class of this name is declared. -/
def declares (api : Api) (name : String) : Bool :=
  api.classes.any fun c => c.name == name

/-- The class of a name. -/
def class? (api : Api) (name : String) : Option Class :=
  api.classes.find? fun c => c.name == name

/-- Puts a class in the place of the first one of its name, or else at the end. -/
def upsertInto (c : Class) : List Class → List Class
  | [] => [c]
  | first :: rest => if first.name == c.name then c :: rest else first :: upsertInto c rest

/-- Adds a class; a class of the same name is replaced where it stands, and nothing is merged. -/
def upsert (api : Api) (c : Class) : Api :=
  { api with classes := upsertInto c api.classes }

end Api

end HeaderBindings
