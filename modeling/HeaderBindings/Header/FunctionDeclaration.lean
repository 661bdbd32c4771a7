import HeaderBindings.Header.ArgumentList
import HeaderBindings.Typing.ArrayGroups

/-!
# Function declarations

`<result> <name>(<arguments>)`, declared inside a class.  Containers and strings of the engine
cannot cross the binary interface and are refused.
-/

namespace HeaderBindings.Header

/-- Why a declaration is no exposed function. -/
inductive FunctionError where
  | nameMissing (declaration : String)
  | parensOpen (declaration : String)
  | resultMissing (function : String)
  | selfReturnInSingleton (function className : String)
  | resultRefused (function type refused : String)
  | brackets (error : BracketError)
  | argumentRefused (function arg type refused : String)
  | groups (error : Typing.GroupError)
  deriving Repr, DecidableEq

/-- The type that marks a method returning its receiver. -/
def selfReturnMarker : String := "NSELF_RETURN"

/-- The words in front of a result type that are not part of it. -/
def storageQualifiers : List String := ["static", "virtual", "inline"]

/-- What to declare instead of an argument of a refused type. -/
def refusalHint (arg refused : String) : String :=
  if Text.contains refused "String" then
    s!"pass a `const char *{arg}_string` instead"
  else
    s!"pass a `const T *{arg}_data` pointer followed by `uint64_t {arg}_size` instead"

/-- The wording of a function error. -/
def FunctionError.message : FunctionError → String
  | .nameMissing declaration => s!"cannot find a function name in `{declaration}`"
  | .parensOpen declaration => s!"unbalanced parentheses in `{declaration}`"
  | .resultMissing function => s!"function `{function}` has no return type"
  | .selfReturnInSingleton function className =>
    s!"function `{function}` returns {selfReturnMarker}, which is not allowed in singleton " ++
      s!"`{className}`"
  | .resultRefused function type refused =>
    s!"function `{function}` has unsupported return type `{type}`: `{refused}` " ++
      "cannot cross the native API"
  | .brackets error => error.message
  | .argumentRefused function arg type refused =>
    let hint := refusalHint arg refused
    s!"parameter `{arg}` of `{function}` has type `{type}`: `{refused}` cannot cross the native " ++
      s!"API, {hint} and name the function `*_c`"
  | .groups error => error.message

/-- The qualified containers that are refused, after their namespace. -/
def refusedQualified : List String := ["::vector", "::array", "::string"]

/-- The refused type that starts at a word run. -/
def refusedAt? (word : Text.Occurrence) : Option String :=
  let name := String.ofList word.word
  if name == "std" then
    (refusedQualified.find? fun tail =>
      match tail.toList.isPrefixOf? word.after with
      | some rest => !(rest.head?.any Text.isWord)
      | none => false).map (name ++ ·)
  else if ["TypedArray", "Array", "StringName", "String"].contains name then some name
  else
    match Text.dropHead? name "Packed" with
    | some rest => if Text.endsWith rest "Array" then some name else none
    | none => none

/-- The first part of a type that cannot cross the binary interface. -/
def refusedPart? (type : String) : Option String :=
  (Text.occurrences type.toList).findSome? refusedAt?

/-- Reads the arguments of a list whose first one has the given position. -/
def parseArguments (replacements : List (String × String)) (function : String) (position : Nat) :
    List String → Except FunctionError (List Argument)
  | [] => .ok []
  | text :: rest =>
    let arg := parseArgument replacements position text
    match refusedPart? arg.type with
    | some refused => .error (.argumentRefused function arg.name arg.type refused)
    | none => (parseArguments replacements function (position + 1) rest).map (arg :: ·)

/-- The result type of a declaration, from the text in front of the name. -/
def resultType (before : List Char) : String :=
  Text.joinWith " " ((Text.fields (.ofList before)).filter fun word =>
    !storageQualifiers.contains word)

/-- Whether a result type stands for the receiver; in a singleton the marker is refused. -/
def readSelfReturn (owner : Class) (function type : String) : Except FunctionError Bool :=
  if type == selfReturnMarker then
    if owner.isSingleton then .error (.selfReturnInSingleton function owner.name) else .ok true
  else
    .ok (owner.kind == .refcounted &&
      (type == "Ref<" ++ owner.name ++ ">" ||
        (type == "void" && Text.endsWith function "_selfreturn")))

/-- Where the name and the argument list of a declaration are. -/
def functionName? (declaration : String) : Option Text.Occurrence :=
  (Text.occurrences declaration.toList).find? fun word => word.next? == some '('

/-- Reads a function declaration of a class, with its marker removed. -/
def parseFunction (owner : Class) (replacements : List (String × String)) (declaration : String) :
    Except FunctionError Function := do
  match functionName? declaration with
  | none => .error (.nameMissing declaration)
  | some word =>
  match toClosingParen? 0 (word.after.dropWhile Text.isBlank).tail with
  | none => .error (.parensOpen declaration)
  | some (list, _) =>
    let name := String.ofList word.word
    let declared := resultType word.before
    if declared.isEmpty then .error (.resultMissing name)
    let returnsSelf ← readSelfReturn owner name declared
    let type := if returnsSelf then "void" else declared
    if let some refused := refusedPart? type then .error (.resultRefused name type refused)
    let receiver := if owner.isSingleton then [] else [Argument.receiver]
    let pieces ← (splitArguments (.ofList list)).mapError .brackets
    let values ← parseArguments replacements name receiver.length pieces
    let args := receiver ++ values
    let arrayGroups ← (Typing.arrayGroups name args).mapError .groups
    pure {
      name
      symbol := owner.name ++ "_" ++ name
      args
      result := { type, abiType := Typing.withoutReference type }
      returnsSelf
      arrayGroups }

end HeaderBindings.Header
