import HeaderBindings.Model.Signature
import HeaderBindings.Typing.Classify

/-!
# Enum types

An enum is known by its qualified name, `Class::Enum`.  A plain type in which that name occurs as a
word of its own is an enum type; of several names the least one counts.
-/

namespace HeaderBindings.Resolve

/-- The enums of an interface by qualified name, in ascending order of the names. -/
abbrev EnumIndex := List (String × TypeClass)

/-- A constant that two enums declare. -/
structure DuplicateConstant where
  constant : String
  first : String
  second : String
  deriving Repr, DecidableEq

/-- The wording of a duplicate constant. -/
def DuplicateConstant.message (duplicate : DuplicateConstant) : String :=
  "enum constant `" ++ duplicate.constant ++ "` is declared in both `" ++ duplicate.first ++
    "` and `" ++ duplicate.second ++ "`"

/-- Enters an enum under its qualified name; the last one of a name counts. -/
def EnumIndex.insert (name : String) (typeClass : TypeClass) : EnumIndex → EnumIndex
  | [] => [(name, typeClass)]
  | entry :: rest =>
    if name < entry.1 then (name, typeClass) :: entry :: rest
    else if name = entry.1 then (name, typeClass) :: rest
    else entry :: EnumIndex.insert name typeClass rest

/-- Adds the constants of an enum to those seen before. -/
def addConstants (qualified : String) (seen : List (String × String)) :
    List EnumConstant → Except DuplicateConstant (List (String × String))
  | [] => .ok seen
  | constant :: rest =>
    match seen.lookup constant.name with
    | some first => .error ⟨constant.name, first, qualified⟩
    | none => addConstants qualified ((constant.name, qualified) :: seen) rest

/-- All enums with their classes, in the order of declaration. -/
def declaredEnums (classes : List Class) : List (Class × EnumType) :=
  classes.flatMap fun c => c.enums.map fun e => (c, e)

/-- Indexes some enums, given the constants and the enums before them. -/
def indexEnums (seen : List (String × String)) (index : EnumIndex) :
    List (Class × EnumType) → Except DuplicateConstant EnumIndex
  | [] => .ok index
  | (owner, e) :: rest =>
    let qualified := qualifiedName owner.name e.name
    match addConstants qualified seen e.constants with
    | .error duplicate => .error duplicate
    | .ok seen =>
      indexEnums seen (index.insert qualified (.enumeration owner.name e.name e.underlying)) rest

/-- A character of an identifier, in the narrow sense. -/
def isIdentifierChar (c : Char) : Bool :=
  c == '_' || c.isAlphanum

/--
Whether one of the occurrences of `name`, found from left to right without overlap, stands between
characters that cannot belong to a longer name.  `previous` is the character before the text, and
the counter holds how many characters of an occurrence are still to be passed over.
-/
def occursAsWord (name : List Char) (previous : Option Char) : Nat → List Char → Bool
  | _, [] => false
  | n + 1, c :: rest => occursAsWord name (some c) n rest
  | 0, c :: rest =>
    match name.isPrefixOf? (c :: rest) with
    | none => occursAsWord name (some c) 0 rest
    | some after =>
      let free :=
        !(previous.any fun c => isIdentifierChar c || c == ':') &&
          !(after.head?.any isIdentifierChar)
      free || occursAsWord name (some c) (name.length - 1) rest

/-- The enum that a type names, and what is wrong with a type that names one without its class. -/
def enumOf? (index : EnumIndex) (symbol type : String) : Option TypeClass × List Notice :=
  let bare := Typing.bareType type
  match index.find? fun entry => occursAsWord entry.1.toList none 0 bare.toList with
  | some entry => (some entry.2, [])
  | none =>
    let last := Text.afterLast bare "::"
    let known := index.any fun entry =>
      match entry.2 with
      | .enumeration _ name _ => name == last
      | _ => false
    (none, if known then [.unqualifiedEnum symbol type last] else [])

/-- An argument whose plain type names an enum, with the class of that enum. -/
def attachArgument (index : EnumIndex) (symbol : String) (arg : Argument) :
    Argument × List Notice :=
  if arg.typeClass == .plain && !arg.isInstance then
    match enumOf? index symbol arg.type with
    | (some typeClass, notices) =>
      ({ arg with typeClass, abiType := Typing.abiType arg.type typeClass .argument }, notices)
    | (none, notices) => (arg, notices)
  else
    (arg, [])

/-- The result whose plain type names an enum, with the class of that enum. -/
def attachResult (index : EnumIndex) (symbol : String) (result : Return) : Return × List Notice :=
  if result.typeClass == .plain then
    match enumOf? index symbol result.type with
    | (some typeClass, notices) =>
      ({ result with typeClass, abiType := Typing.abiType result.type typeClass .result }, notices)
    | (none, notices) => (result, notices)
  else
    (result, [])

/-- A function with the classes of its enum types. -/
def attachFunction (index : EnumIndex) (f : Function) : Function × List Notice :=
  let args := f.args.map (attachArgument index f.symbol)
  let (result, notices) := attachResult index f.symbol f.result
  ({ f with args := args.map Prod.fst, result }, args.flatMap Prod.snd ++ notices)

/-- A class with the classes of the enum types in its functions. -/
def attachClass (index : EnumIndex) (c : Class) : Class × List Notice :=
  if index.isEmpty then
    (c, [])
  else
    let functions := c.functions.map (attachFunction index)
    ({ c with functions := functions.map Prod.fst }, functions.flatMap Prod.snd)

end HeaderBindings.Resolve
