import ArticleExport.Failure.Fault

/-!
# Failures

What can go wrong.  The errors of an export or a push are reported to the caller as a result; every
other failure comes from data of the wrong shape or from the surroundings, and is raised.
-/

namespace ArticleExport

/-- How an error of the publishing service is told from the others. -/
inductive RemoteKind where
  /-- Any error without a meaning of its own. -/
  | request
  /-- The remote article was changed in the meantime. -/
  | conflict
  /-- The remote article or channel does not exist. -/
  | gone
deriving DecidableEq, Repr

/-- An error of the publishing service. -/
structure RemoteError where
  /-- How it is told from the others. -/
  kind : RemoteKind
  /-- The code that the service gave. -/
  code : Text
  /-- The path of the field at fault. -/
  keyPath : List Text
  /-- The wording, where it does not follow from the code. -/
  wording : Option Text
  /-- The status of the response. -/
  status : Option Int
  /-- What is wrong with an article record that could not be read. -/
  issues : List FieldIssue
  /-- The error that a recovery had started from. -/
  cause : Option RemoteError
deriving Repr

namespace RemoteError

/-- The code of an article that was changed in the meantime. -/
def conflictCode : Text := "WRONG_REVISION"

/-- The code of something that does not exist. -/
def goneCode : Text := "NOT_FOUND"

/-- The name of the field that is at fault when an article does not exist. -/
def articleKey : Text := "articleId"

/-- The error of a code, in the kind that the code has. -/
def ofCode (code : Text) (keyPath : List Text) (wording : Option Text) (status : Option Int) :
    RemoteError where
  kind := if code = conflictCode then .conflict else if code = goneCode then .gone else .request
  code := code
  keyPath := keyPath
  wording := wording
  status := status
  issues := []
  cause := none

/-- An error of no special kind, worded by hand. -/
def plain (code wording : Text) (status : Option Int) : RemoteError where
  kind := .request
  code := code
  keyPath := []
  wording := some wording
  status := status
  issues := []
  cause := none

/-- The wording: the given one, or the code with the path. -/
def message (e : RemoteError) : Text :=
  match e.wording with
  | some w => w
  | none =>
    if e.keyPath.isEmpty then e.code
    else e.code ++ (" (keyPath " : Text) ++ Text.join "." e.keyPath ++ (")" : Text)

/-- Whether what does not exist is the article itself. -/
def isArticleMissing (e : RemoteError) : Bool :=
  e.kind == .gone && e.keyPath.contains articleKey

end RemoteError

/-- Why a document failed to be written. -/
inductive DocumentFlaw where
  /-- A value of a kind that JSON does not have. -/
  | notSerializable
  /-- A value that contains itself. -/
  | circular
  /-- A whole number with too many digits. -/
  | oversizedNumber
deriving DecidableEq, Repr

/-- An error of an export or a push. -/
inductive ExportError where
  /-- An error with no kind of its own. -/
  | general (message : Text)
  /-- Configuration that is required is missing. -/
  | configuration (message : Text)
  /-- The document is not well formed. -/
  | validation (message : Text) (flaw : Option DocumentFlaw)
  /-- The content is not in the store any more. -/
  | contentNotFound (id : Text)
  /-- The scheduler refused a push. -/
  | scheduling (id cause : Text)
  /-- A component was built twice, or used before it was built. -/
  | componentState (message : Text)
  /-- Content that no component can show. -/
  | component (name : Text) (wording : Option Text)
  /-- Component errors kept an article from being published. -/
  | unsupportedComponents (names : List Text)
  /-- An error of the publishing service. -/
  | remote (e : RemoteError)
deriving Repr

namespace ExportError

/-- The phase of a run in which components fail. -/
def componentPhase : Text := "component_errors"

/-- The wording for content that no component can show. -/
def unsupportedComponent (name : Text) : Text := ("Unsupported component: " : Text) ++ name

/-- The wording of an error. -/
def message : ExportError → Text
  | general m | configuration m | validation m _ | componentState m => m
  | contentNotFound id => ("Could not find content with id " : Text) ++ id
  | scheduling id cause =>
    ("Could not schedule push of content " : Text) ++ id ++ (": " : Text) ++ cause
  | component name none => unsupportedComponent name
  | component name (some wording) => if wording.isEmpty then unsupportedComponent name else wording
  | unsupportedComponents names =>
    ("The following components are unsupported and prevented publishing: " : Text) ++
      Text.join ", " names
  | remote e => e.message

end ExportError

/-- Any failure. -/
inductive Failure where
  /-- An error of the export or push. -/
  | error (e : ExportError)
  /-- Any other failure. -/
  | fault (f : Fault)
deriving Repr

namespace Failure

/-- The error that says that the article itself does not exist, where the failure is one. -/
def missingArticle? : Failure → Option RemoteError
  | error (.remote e) => if e.isArticleMissing then some e else none
  | _ => none

/-- A failure of a recovery: an error of the service remembers the one that the recovery started from. -/
def inRecovery (cause : RemoteError) : Failure → Failure
  | error (.remote e) => error (.remote { e with cause := some cause })
  | f => f

end Failure

end ArticleExport
