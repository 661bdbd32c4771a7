import HeaderBindings.Header.Scan
import HeaderBindings.Resolve.Api

/-!
# Extraction

From the sources of the headers to the interface: the headers are scanned in turn, and what they
declare is resolved once all of them have been read.
-/

namespace HeaderBindings

/-- The source of a header under its name in messages. -/
structure HeaderSource where
  name : String
  text : String
  deriving Repr, DecidableEq

/-- What ends an extraction. -/
inductive ExtractionError where
  | scan (error : Header.ScanError)
  | resolution (error : Resolve.DuplicateConstant)
  deriving Repr, DecidableEq

/-- The wording of an extraction error. -/
def ExtractionError.message : ExtractionError → String
  | .scan error => error.message
  | .resolution error => error.message

/-- The classes that some headers declare, up to the scan that failed. -/
structure Gathered where
  api : Api
  notices : List Notice
  failure : Option Header.ScanError
  deriving Repr, DecidableEq

/-- Adds what a header declares to an interface. -/
def gatherHeader (options : Header.Options) (api : Api) (source : HeaderSource) : Gathered :=
  let scan := Header.scan options source.name source.text
  let (collected, notices) := Header.collect api scan.findings
  { api := collected, notices, failure := scan.failure }

/-- Adds what some headers declare to an interface; the first scan that fails is the last one. -/
def gather (options : Header.Options) (api : Api) : List HeaderSource → Gathered
  | [] => { api, notices := [], failure := none }
  | source :: rest =>
    let first := gatherHeader options api source
    if first.failure.isSome then first
    else
      let others := gather options first.api rest
      { others with notices := first.notices ++ others.notices }

/-- The outcome of an extraction, with the notices up to its end. -/
structure Extraction where
  result : Except ExtractionError Api
  notices : List Notice

/-- The resolution of what has been gathered. -/
def Gathered.finish (gathered : Gathered) : Extraction :=
  match gathered.failure with
  | some error => { result := .error (.scan error), notices := gathered.notices }
  | none =>
    let resolution := Resolve.resolve gathered.api
    { result :=
        match resolution.failure with
        | some error => .error (.resolution error)
        | none => .ok resolution.api
      notices := gathered.notices ++ resolution.notices }

/-- Extracts the interface of some headers. -/
def extract (options : Header.Options) (sources : List HeaderSource) : Extraction :=
  (gather options {} sources).finish

end HeaderBindings
