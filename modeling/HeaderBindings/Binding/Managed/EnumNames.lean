import HeaderBindings.Binding.Managed.Type
import HeaderBindings.Text.Pascal

/-!
# Names of enum constants

The constants of an enum lose the words that they all start with, and the rest is put into pascal
case.  The common start is measured in bytes and then cut back to the last underscore in it.
-/

namespace HeaderBindings.Managed

/-- A model that the managed wrapper is not defined for. -/
inductive Fault where
  /-- The common start of the constants of an enum ends inside a character. -/
  | splitCharacter (owner enumName : String)
  /-- An enum has no names. -/
  | unlistedEnum (owner enumName : String)
  /-- A constant is not among those of the last enum of the same name. -/
  | unlistedConstant (owner enumName constant : String)
  deriving Repr, DecidableEq

/-- How many bytes two texts share at the start. -/
def sharedBytes : List UInt8 → List UInt8 → Nat
  | a :: as, b :: bs => if a = b then sharedBytes as bs + 1 else 0
  | _, _ => 0

/-- The bytes of a text. -/
def bytesOf (text : List Char) : List UInt8 :=
  text.flatMap String.utf8EncodeChar

/-- The characters that make up the first `size` bytes; `none` if the last one is not complete. -/
def takeBytes? : Nat → List Char → Option (List Char)
  | 0, _ => some []
  | _ + 1, [] => none
  | size + 1, c :: rest =>
    if c.utf8Size ≤ size + 1 then (takeBytes? (size + 1 - c.utf8Size) rest).map (c :: ·)
    else none

/-- How many bytes all names share at the start. -/
def commonBytes (first : String) (rest : List String) : Nat :=
  let bytes := bytesOf first.toList
  rest.foldl (fun size name => min size (sharedBytes bytes (bytesOf name.toList))) bytes.length

/-- Whether what is left of a name without `count` characters can start a name. -/
def canStartAt (count : Nat) (name : String) : Bool :=
  (name.toList.drop count).head?.any fun c => !c.isDigit

/--
The words that all names start with, the last underscore included.  There are none if a name would
be empty without them or start with a digit.  The result is `none` where the names part inside a
character.
-/
def commonHead? : List String → Option String
  | [] => some ""
  | [_] => some ""
  | first :: rest =>
    (takeBytes? (commonBytes first rest) first.toList).map fun common =>
      let head := Text.dropEndWhile (· != '_') common
      if (first :: rest).all (canStartAt head.length) then .ofList head else ""

/-- The name of a constant without the words that all constants start with. -/
def shortName (head constant : String) : String :=
  Text.pascal (Text.lowercase (Text.dropHead constant head))

/-- The C# names of an enum and of its constants. -/
structure EnumNames where
  path : String
  constants : List (String × String)
  deriving Repr, DecidableEq

/-- The C# name of a constant. -/
def EnumNames.constant? (names : EnumNames) (constant : String) : Option String :=
  names.constants.lookup constant

/-- The names of an enum. -/
def EnumNames.ofEnum (owner : String) (e : EnumType) : Except Fault EnumNames :=
  match commonHead? (e.constants.map EnumConstant.name) with
  | none => .error (.splitCharacter owner e.name)
  | some head => .ok {
      path := enumPath owner e.name
      constants := e.constants.map fun constant => (constant.name, shortName head constant.name) }

/-- The names of all enums under their qualified names, the last declaration first. -/
abbrev EnumTable := List (String × EnumNames)

/-- The entries of the enums of a class. -/
def classEntries (c : Class) : Except Fault EnumTable :=
  c.enums.mapM fun e => do pure (qualifiedName c.name e.name, ← EnumNames.ofEnum c.name e)

/-- The names of all enums of an interface.  Of two enums of one qualified name the last counts. -/
def EnumTable.ofApi (api : Api) : Except Fault EnumTable := do
  let entries ← api.classes.mapM classEntries
  pure entries.flatten.reverse

/-- The names of the enum of a qualified name. -/
def EnumTable.find? (table : EnumTable) (owner name : String) : Option EnumNames :=
  table.lookup (qualifiedName owner name)

end HeaderBindings.Managed
