import ArticleExport.Failure
import ArticleExport.Json.Access

/-!
# Reports of errors

The errors of an export or a push as JSON: the name of the kind, the wording, and what else the error holds.
-/

namespace ArticleExport

namespace RemoteError

/-- The name of a kind of remote error. -/
def kindName : RemoteKind → Text
  | .request => "RemoteRequestError"
  | .conflict => "RemoteConflictError"
  | .gone => "RemoteGoneError"

/-- The parts of a remote error, that which it started from left out. -/
def ownParts (e : RemoteError) : List (String × Json) :=
  [("error", .str (kindName e.kind)), ("message", .str e.message), ("code", .str e.code),
    ("keyPath", .texts e.keyPath), ("status", (e.status.map Json.int).getD .null)] ++
    if e.issues.isEmpty then [] else [("details", .texts (FieldIssue.report e.issues))]

/-- A remote error as JSON. -/
def report (e : RemoteError) : Json :=
  match e.cause with
  | none => .object e.ownParts
  | some cause => .object (e.ownParts ++ [("original", .object cause.ownParts)])

end RemoteError

namespace ExportError

/-- The name of the kind of an error. -/
def kindName : ExportError → Text
  | general _ => "ExportError"
  | configuration _ => "ConfigurationError"
  | validation _ _ => "ValidationError"
  | contentNotFound _ => "ContentNotFoundError"
  | scheduling _ _ => "SchedulingError"
  | componentState _ => "ComponentStateError"
  | component _ _ => "ComponentError"
  | unsupportedComponents _ => "UnsupportedComponentsError"
  | remote e => RemoteError.kindName e.kind

/-- The names of an error's kind and of the kinds that it belongs to, its own first. -/
def kindNames (e : ExportError) : List Text :=
  match e with
  | general _ => [e.kindName]
  | remote r =>
    if r.kind = .request then [e.kindName, "ExportError"]
    else [e.kindName, "RemoteRequestError", "ExportError"]
  | _ => [e.kindName, "ExportError"]

/-- What an error holds besides its wording. -/
def parts : ExportError → List (String × Json)
  | contentNotFound id => [("content_id", .str id)]
  | scheduling id _ => [("content_id", .str id)]
  | component name _ => [("component", .str name), ("phase", .str componentPhase)]
  | unsupportedComponents names => [("components", .texts names)]
  -- an article is JSON, so numbers are all that can keep its document from being written
  | validation _ (some .oversizedNumber) => [("cause", "ValueError")]
  | _ => []

/-- An error as JSON. -/
def report (e : ExportError) : Json :=
  match e with
  | remote r => r.report
  | _ => .object ([("error", .str e.kindName), ("message", .str e.message)] ++ e.parts)

end ExportError

end ArticleExport
