import HeaderBindings.Header.Docs
import HeaderBindings.Header.EnumDeclaration
import HeaderBindings.Header.FunctionDeclaration
import HeaderBindings.Header.Marker
import HeaderBindings.Preprocessor.Conditions
import HeaderBindings.Text.Lines

/-!
# Scanning a header

A header is read line by line.  A live line with a marker opens a class or adds a declaration to the
class that is open; a declaration may go on over the following lines.  A scan depends on nothing but
the options and the header, and its findings are handed over in order: each class when it is
complete, and each notice where it arises.
-/

namespace HeaderBindings.Header

/-- What a scan takes from the build. -/
structure Options where
  /-- The definitions given to the preprocessor. -/
  definitions : List String := []
  /-- Default expressions of the headers and what takes their place. -/
  replacements : List (String × String) := []
  deriving Repr, DecidableEq

/-- What ends a scan. -/
inductive ScanError where
  | enumOpen (place : String)
  | parensOpen (place : String)
  | enumeration (place className : String) (error : EnumError)
  | function (place className : String) (error : FunctionError)
  deriving Repr, DecidableEq

/-- The wording of a scan error. -/
def ScanError.message : ScanError → String
  | .enumOpen place => s!"{place}: unterminated enum: reached the end of the header"
  | .parensOpen place =>
    s!"{place}: unbalanced parentheses in declaration: reached the end of the header"
  | .enumeration place className error =>
    let cause := error.message
    s!"{place}: in class `{className}`: {cause}"
  | .function place className error =>
    let cause := error.message
    s!"{place}: in class `{className}`: {cause}"

/-- Something that a scan hands over. -/
inductive Finding where
  | notice (notice : Notice)
  /-- A class whose declarations have all been read. -/
  | complete (completed : Class)
  deriving Repr, DecidableEq

/-- The findings of a scan, and what ended it early.  The class that is open when a scan fails is
lost. -/
structure Scan where
  findings : List Finding
  failure : Option ScanError
  deriving Repr, DecidableEq

/-- A scan with findings before its own. -/
def Scan.after (earlier : List Finding) (scan : Scan) : Scan :=
  { scan with findings := earlier ++ scan.findings }

/-- Joins lines, without their line comments, until `done` accepts the joined text. -/
def joinUntil? (done : String → Bool) (joined : String) : List String → Option String
  | [] => none
  | line :: rest =>
    let start := if joined.isEmpty then "" else joined ++ " "
    let next := start ++ stripLineComment line
    if done next then some next else joinUntil? done next rest

/-- A line of a header with its surroundings. -/
structure LineContext where
  options : Options
  header : String
  /-- The number of the line, from one. -/
  number : Nat
  /-- The lines above, the nearest first. -/
  above : List String
  line : String
  /-- The lines below. -/
  below : List String

namespace LineContext

/-- The place of the line, for messages. -/
def place (context : LineContext) : String :=
  context.header ++ ":" ++ toString context.number

/-- The documentation above the line. -/
def docs (context : LineContext) : Docs × List Notice :=
  docsAbove context.number context.above

/-- The line joined with the lines below until `done` accepts it, without its marker. -/
def declaration? (context : LineContext) (done : String → Bool) : Option String :=
  (joinUntil? done "" (context.line :: context.below)).map fun joined => (readMarker joined).2

/-- The enum declared at the line, added to the class that is open. -/
def addEnum (context : LineContext) (owner : Class) : Except ScanError Class :=
  match context.declaration? (Text.contains · "\x7d") with
  | none => .error (.enumOpen context.place)
  | some declaration =>
    match parseEnum declaration with
    | .error error => .error (.enumeration context.place owner.name error)
    | .ok enumType => .ok { owner with enums := owner.enums ++ [enumType] }

/-- A function with the documentation above it. -/
def documented (f : Function) : Docs → Function
  | .absent => f
  | .block lines => { f with docs := lines }
  | .reference target => { f with docsFrom := some target }

/-- The function declared at the line, added to the class that is open. -/
def addFunction (context : LineContext) (owner : Class) : Except ScanError Class :=
  match context.declaration? argumentsClosed with
  | none => .error (.parensOpen context.place)
  | some declaration =>
    match parseFunction owner context.options.replacements declaration with
    | .error error => .error (.function context.place owner.name error)
    | .ok f => .ok { owner with functions := owner.functions ++ [documented f context.docs.1] }

/-- The class opened at the line. -/
def openClass (context : LineContext) (name : String) (kind : ClassKind) : Class :=
  match context.docs.1 with
  | .block lines => { name, kind, docs := lines }
  | _ => { name, kind }

/-- The class that is open after a line without a marker. -/
def notePlain (context : LineContext) (owner : Class) (declared : String) : Class :=
  match context.docs.1 with
  | .block lines => owner.declareDocs declared lines
  | _ => owner

/-- Reads a live line: what it hands over, and the class that is open after it. -/
def read (context : LineContext) (current : Option Class) :
    Except ScanError (List Finding × Option Class) :=
  let docNotices := context.docs.2.map Finding.notice
  match readMarker context.line, current with
  | (none, _), none => .ok ([], none)
  | (none, _), some owner =>
    match plainDeclaration? context.line with
    | none => .ok ([], some owner)
    | some declared => .ok (docNotices, some (context.notePlain owner declared))
  | (some (.classOpen kind), rest), _ =>
    match declaredClass? rest with
    | none => .ok ([.notice (.classNameMissing context.place context.line)], current)
    | some name =>
      .ok (current.toList.map Finding.complete ++ docNotices,
        some (context.openClass name kind))
  | (some .enumeration, _), none => .ok ([.notice (.enumOutsideClass context.place)], none)
  | (some .enumeration, _), some owner =>
    (context.addEnum owner).map fun owner => ([], some owner)
  | (some .function, _), none =>
    .ok ([.notice (.functionOutsideClass context.place context.line)], none)
  | (some .function, _), some owner =>
    (context.addFunction owner).map fun owner => (docNotices, some owner)

end LineContext

/-- Scans the lines below `above`, with the class that is open. -/
def scanLines (options : Options) (header : String) (above : List String)
    (conditions : Preprocessor.Conditions) (current : Option Class) : List String → Scan
  | [] => { findings := current.toList.map Finding.complete, failure := none }
  | line :: below =>
    let directive := Preprocessor.Directive.ofLine line
    let onwards (current : Option Class) :=
      scanLines options header (line :: above) (conditions.step directive) current below
    if conditions.admits directive then
      let context : LineContext :=
        { options, header, number := above.length + 1, above, line, below }
      match context.read current with
      | .error failure => { findings := [], failure := some failure }
      | .ok (findings, current) => (onwards current).after findings
    else
      (onwards current).after ((conditions.complaints directive).map Finding.notice)

/-- Scans a header. -/
def scan (options : Options) (header source : String) : Scan :=
  scanLines options header [] (Preprocessor.Conditions.ofDefinitions options.definitions) none
    (Text.trimmedLines source)

/-- Adds the classes among some findings to the interface; a class declared before is replaced, and
a notice says so. -/
def collect (api : Api) : List Finding → Api × List Notice
  | [] => (api, [])
  | .notice notice :: rest =>
    let (api, notices) := collect api rest
    (api, notice :: notices)
  | .complete c :: rest =>
    let (collected, notices) := collect (api.upsert c) rest
    (collected, (if api.declares c.name then [.classRedeclared c.name] else []) ++ notices)

end HeaderBindings.Header
