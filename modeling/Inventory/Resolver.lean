-- The resolver of endpoint documents, as it runs from a command line: it reads
-- a document, resolves all its endpoints and writes the descriptors.
import Inventory.Endpoint.Resolution
import Inventory.Record.Endpoint

namespace Inventory.Resolver

/-- Where the document comes from. -/
inductive Source
  | standardInput
  | file (path : String)
deriving DecidableEq, Repr

/-- The first argument is a path; a dash, or no argument, means standard input. -/
def source : List String → Source
  | [] | "-" :: _ => .standardInput
  | path :: _ => .file path

/-! ## Failures -/

/-- Why there is no output. -/
inductive Failure
  | unreadable (source : Source) (reason : String)
  | notADocument (cause : Json.Cause)
  | refused (cause : Endpoint.BatchError)

namespace Failure

def message : Failure → String
  | unreadable .standardInput _ => "Failed to read stdin"
  | unreadable (.file path) _ => s!"Failed to read {path}"
  | notADocument _ => "Input is not a RedfishEndpoints document"
  | refused _ => "Endpoint resolution failed"

/-- What is behind a failure, from the outside in. -/
def trail : Failure → List String
  | unreadable _ reason => [reason]
  | notADocument cause => [cause.text]
  | refused cause => cause.message :: cause.cause.trail

/-- A text of one or more lines behind a mark; the lines after the first start below its end. -/
def hanging (mark text : String) : String :=
  let margin := List.replicate mark.length ' '
  mark ++ String.ofList (('\n' :: margin).intercalate (text.toList.splitOn '\n'))

/-- A failure as it is reported: what failed, and then what is behind it, numbered if there are
several things. -/
def report (f : Failure) : String :=
  let entries := match f.trail with
    | [only] => [hanging "    " only]
    | trail => trail.zipIdx.map fun entry => hanging s!"    {entry.2}: " entry.1
  "\n".intercalate (["Error: " ++ f.message, "", "Caused by:"] ++ entries)

end Failure

/-! ## Resolving -/

/-- The descriptors that a document resolves to. -/
def resolveText (text : String) : Except Failure (List Descriptor) :=
  match Json.decode EndpointList.decoder text with
  | .error cause => .error (.notADocument cause)
  | .ok list =>
    match Endpoint.resolveAll list.endpoints with
    | .error cause => .error (.refused cause)
    | .ok descriptors => .ok descriptors

/-- The document that is written: members in the order of their names, one a line. -/
def documentOf (descriptors : List Descriptor) : Json :=
  (Json.object [("RedfishEndpoints", .list (descriptors.map Descriptor.json))]).sorted

/-- What a run leaves behind. -/
structure Output where
  exitCode : Nat
  standardOutput : String
  errorText : Option String
deriving DecidableEq, Repr

def Output.ofFailure (f : Failure) : Output := ⟨1, "", some f.report⟩

/-- A run on the text of a source, or on the reason why it could not be read. -/
def run (source : Source) (text : Except String String) : Output :=
  match text with
  | .error reason => .ofFailure (.unreadable source reason)
  | .ok text =>
    match resolveText text with
    | .error f => .ofFailure f
    | .ok descriptors => ⟨0, (documentOf descriptors).prettyText ++ "\n", none⟩

end Inventory.Resolver
