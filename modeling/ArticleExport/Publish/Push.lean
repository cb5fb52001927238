import ArticleExport.Component.Kind
import ArticleExport.Json.Shown
import ArticleExport.Publish.Bundles
import ArticleExport.Publish.Document
import ArticleExport.Publish.Metadata
import ArticleExport.Publish.World
import ArticleExport.Sync.Gate

/-!
# Pushes

A push brings a content item to the publishing service.  It is queued where the settings say so, and runs
when the scheduler calls it back.  A push that runs

* accepts the item: the account is configured, the item is there, and nothing vetoes it;
* prepares what is sent: the document, the bundles, the metadata, and their fingerprint;
* sends it, unless the fingerprint is that of what was accepted last: it creates the article, or asks for its
  revision and updates it;
* where the article was deleted at the service, creates it once more;
* notes the identity of the article and the fingerprint.

The markers of a push and its workspace are gone when it has ended.  Export errors become results; other
failures end the run.
-/

namespace ArticleExport

/-- What came of a push. -/
inductive PushStatus where
  /-- The article was created. -/
  | created
  /-- The article was updated. -/
  | updated
  /-- Nothing had to be done. -/
  | skipped
  /-- The push was given to the scheduler. -/
  | queued
  /-- The push failed. -/
  | failed
deriving DecidableEq, Repr

namespace PushStatus

/-- The name of a status. -/
def name : PushStatus → Text
  | created => "created"
  | updated => "updated"
  | skipped => "skipped"
  | queued => "queued"
  | failed => "failed"

end PushStatus

/-- The result of a push. -/
structure PushResult where
  /-- The content item. -/
  contentId : Text
  /-- What came of the push. -/
  status : PushStatus
  /-- The article at the service, after it was created or updated. -/
  record : Option ArticleRecord
  /-- The error of a push that failed. -/
  error : Option ExportError
  /-- What the user is told. -/
  messages : List Text
  /-- Whether an article that was deleted at the service was created again. -/
  recreated : Bool
  /-- The fingerprint of what was prepared; empty where nothing was. -/
  checksum : Text

namespace PushResult

/-- A result of which there is no more to say than a status and messages. -/
def brief (id : Text) (status : PushStatus) (messages : List Text) : PushResult :=
  ⟨id, status, none, none, messages, false, []⟩

/-- The result of a push that an error ended. -/
def failed (id : Text) (e : ExportError) : PushResult :=
  { brief id .failed [e.message] with error := some e }

/-- Whether the push did not fail. -/
def isOk (r : PushResult) : Bool := r.status != .failed

end PushResult

namespace PushWording

/-! ## Wordings -/

/-- No scheduler for pushes that are to be queued. -/
def noScheduler : Text := "Asynchronous pushes are enabled but no scheduler is configured"

/-- No account at the service. -/
def noAccount : Text :=
  ("The publishing API settings seem to be empty. " : Text) ++
    ("Please fill in the API key, API secret and API channel settings." : Text)

/-- A push that is queued already. -/
def pending (id : Text) : Text := ("Article " : Text) ++ id ++ (" is already pending publish." : Text)

/-- The veto of the host. -/
def vetoed (id : Text) : Text :=
  ("Skipped push of article " : Text) ++ id ++ (" due to the skip callback." : Text)

/-- The veto of a term. -/
def skipTerm (id : Text) : Text :=
  ("Skipped push of article " : Text) ++ id ++
    (" due to the presence of a skip push taxonomy term." : Text)

/-- Content that was left out. -/
def removed (names : List Text) : Text :=
  ("The following components are unsupported and were removed: " : Text) ++ Text.join ", " names

/-- An article that has not changed. -/
def inSync (id : Text) : Text :=
  ("Skipped push of article " : Text) ++ id ++ (" because it is already in sync." : Text)

/-- An article that was created again. -/
def recreated (id : Text) : Text :=
  ("Article " : Text) ++ id ++
    (" was previously deleted remotely and has been recreated." : Text)

/-- An article whose revision the service does not tell. -/
def emptyRevision : Text := "The publishing API returned an empty revision for this article"

end PushWording

/-- A scheduler takes a content item and says what keeps it from accepting it, if anything does.  It may run
pushes at once. -/
abbrev Scheduler (σ : Type) := Text → StateM (World σ) (Option Text)

/-- What the functions of a host fail with, where they fail. -/
structure HostFailures where
  /-- The failure of the veto for a content item. -/
  veto : Key → Option Failure
  /-- The failure of the change to the metadata of a content item. -/
  filter : Content → Option Failure
  /-- The failure of the decision on what is in sync. -/
  override : SyncCheck → Option Failure

/-- The functions of the host do not fail. -/
def HostFailures.never : HostFailures := ⟨fun _ => none, fun _ => none, fun _ => none⟩

/-- What a host sets up for its pushes. -/
structure PushSetup (σ : Type) where
  /-- The client of the service. -/
  api : PublishingApi σ
  /-- The themes to choose from. -/
  themes : ThemeStore
  /-- The variants that the content is offered to. -/
  variants : List Variant
  /-- The specs that count before the built-in ones. -/
  specs : SpecRegistry
  /-- The host's veto. -/
  shouldSkip : Option (Key → Bool)
  /-- The host's decision on what is in sync. -/
  override : Option SyncOverride
  /-- The host's change to the metadata. -/
  filter : Option MetadataFilter
  /-- The scheduler. -/
  scheduler : Option (Scheduler σ)
  /-- What the veto, the change to the metadata and the decision on what is in sync fail with. -/
  failures : HostFailures := .never

/-- Whether a push is queued: the settings say so, and the scheduler has not called it back. -/
def World.isQueueing {σ : Type} (w : World σ) (scheduled : Bool) : Bool :=
  w.settings.apiAsync && !scheduled

/-- What a push sends. -/
structure Shipment where
  /-- The document. -/
  document : Table Json
  /-- The addresses of its bundles. -/
  bundles : List Text
  /-- Its metadata. -/
  metadata : Table Json
deriving DecidableEq

/-- What a push has prepared. -/
structure Prepared where
  /-- What it sends. -/
  shipment : Shipment
  /-- What the user is told. -/
  messages : List Text
  /-- The check against what was accepted last. -/
  check : SyncCheck

/-- Whether one of some terms is among the terms of a content item, which are to be values that can be
looked up. -/
def hasTerm (terms : List Key) : Json → Except Fault Bool
  | .arr items =>
    match items.find? fun v => v.key?.isNone with
    | some v => .error (.noKey v.kindName)
    | none => .ok (hasOne (items.filterMap Json.key?))
  | .str t => .ok (hasOne (t.map fun c => .text [c]))
  | .obj entries => .ok (hasOne (entries.map fun e => .text e.1))
  | .keyed entries => .ok (hasOne (entries.map (·.1)))
  | v => .error (.notIterable v.kindName)
where
  /-- Whether one of the terms is among some keys. -/
  hasOne (keys : List Key) : Bool :=
    keys.any fun k => terms.any fun n => n.canonical == k.canonical

namespace PushSetup

variable {σ : Type} (p : PushSetup σ)

/-- The assembler of articles under settings. -/
def assembler (settings : Settings) : Assembler := ⟨settings, p.themes, p.variants, p.specs⟩

/-- What the change to the metadata of a content item fails with, where there is one and it fails. -/
def filterFailure? (c : Content) : Option Failure := p.filter.bind fun _ => p.failures.filter c

/-- What the decision on what is in sync fails with, where there is one and it fails. -/
def overrideFailure? (check : SyncCheck) : Option Failure :=
  p.override.bind fun _ => p.failures.override check

/-- Asks the host whether to skip a content item; a host without a veto is not asked. -/
def askHost (c : Content) : Run σ Bool :=
  match p.shouldSkip with
  | none => pure false
  | some veto => do
    modify fun w => { w with asked := w.asked ++ [c.id] }
    Run.failing (p.failures.veto c.id)
    return veto c.id

/-- Whether content is skipped because of one of its terms. -/
def hasSkipTerm (settings : Settings) (c : Content) : Except Fault Bool :=
  if settings.apiAutosync then hasTerm settings.apiAutosyncSkip c.terms else .ok false

/-- Why a content item is skipped, where it is. -/
def skipReason (c : Content) : Run σ (Option Text) := do
  if ← p.askHost c then return some (PushWording.vetoed c.label)
  let settings := (← get).settings
  if ← Run.ofFault (hasSkipTerm settings c) then return some (PushWording.skipTerm c.label)
  return none

/-- Takes the markers of a content item away. -/
def unmark (id : Text) : Run σ Unit := do
  Run.reach id
  Run.onState (·.clearMarkers id)

/-- Marks the push of a content item as under way, unless the item is skipped: then there is a result, and
nothing to push. -/
def start (id : Text) (c : Content) : Run σ (Except PushResult Content) := do
  match ← p.skipReason c with
  | some reason =>
    unmark id
    return .error (.brief id .skipped [reason])
  | none =>
    Run.reach id
    Run.onState (·.markInProgress id)
    return .ok c

/-- Accepts a content item for a push: the item, or the result where there is nothing to push. -/
def accept (id : Text) : Run σ (Except PushResult Content) := do
  let w ← get
  if w.settings.isApiConfigured then
    match KeyTable.get? (.text id) w.contents with
    | some c => p.start id c
    | none =>
      unmark id
      throw (.error (.contentNotFound id))
  else
    unmark id
    throw (.error (.configuration PushWording.noAccount))

/-- What the user is told about content that no component could show; under the strictest policy it ends the
push. -/
def alerts (settings : Settings) (names : List Text) : Except Failure (List Text) :=
  if names.isEmpty then .ok []
  else match settings.componentAlerts with
    | .ignore => .ok []
    | .warn => .ok [PushWording.removed names]
    | .fail => .error (.error (.unsupportedComponents names))

/-- The document of an export, and what the user is told about it. -/
def document (settings : Settings) (c : Content) :
    Except Failure (Table Json × ExportResult × List Text) := do
  let result ← (p.assembler settings).export c
  let messages ← alerts settings (result.issues.map ComponentIssue.component)
  let document ← (validateDocument (.ofJson (.obj result.article))).mapError .error
  return (document, result, messages)

/-- What is sent along with a document. -/
def shipment (settings : Settings) (c : Content) (document : Table Json) (bundles : List Text) :
    Except Fault Shipment := do
  let bundles ← cleanBundles bundles
  let metadata ← publishMetadata settings p.filter c
  return ⟨document, bundles, metadata⟩

/-- Writes a document into a workspace. -/
def writeDocument (room : Text) (document : Table Json) : Run σ Unit := do
  let w ← get
  match Table.get? room w.temporary with
  | none => throw (.fault .noSuchFile)
  | some space =>
    set { w with temporary := Table.set room (space.write (.obj document)).1 w.temporary }
    Run.ofFault (space.write (.obj document)).2

/-- Prepares what is sent for a content item, with the document written into a workspace. -/
def prepare (room : Text) (c : Content) : Run σ Prepared := do
  let settings := (← get).settings
  let (document, result, messages) ← Run.ofExcept (p.document settings c)
  writeDocument room document
  let shipment ← Run.ofFault (p.shipment settings c document result.bundles)
  Run.failing (p.filterFailure? c)
  Run.reach c.label
  let stored := ((← get).state.checksum c.label).text?
  let check ← Run.ofFault
    (SyncCheck.ofExport c.label stored (.obj shipment.document) shipment.metadata shipment.bundles)
  return ⟨shipment, messages, check⟩

/-- Creates the article of a content item. -/
def create (s : Shipment) : Run σ ArticleRecord := do
  let channel := (← get).settings.apiChannel
  Run.call (p.api.create (.obj s.document) channel s.bundles s.metadata)

/-- The failure of an article whose revision the service does not tell. -/
def withoutRevision : Failure :=
  .error (.remote (.plain "INVALID_RESPONSE" PushWording.emptyRevision none))

/-- Updates an article, at the revision that the service has. -/
def update (id remoteId : Text) (s : Shipment) : Run σ ArticleRecord := do
  let current ← Run.call (p.api.get remoteId)
  if current.revision.isEmpty then throw withoutRevision
  else
    Run.onState (·.setRevision id current.revision)
    Run.call (p.api.update remoteId current.revision (.obj s.document) s.bundles s.metadata)

/-- Creates the article of a content item that is not published, and updates that of one that is. -/
def transmit (id : Text) (remote : RemoteState) (s : Shipment) : Run σ (ArticleRecord × PushStatus) :=
  if remote.isPublished then do
    let record ← p.update id remote.remoteId.shown s
    return (record, .updated)
  else do
    let record ← p.create s
    return (record, .created)

/-- Creates an article that was deleted at the service once more. -/
def recover (id : Text) (cause : RemoteError) (s : Shipment) : Run σ (ArticleRecord × PushStatus) := do
  Run.onState (·.clearRemoteState id)
  Run.handle (p.transmit id .unknown s) fun f => throw (f.inRecovery cause)

/-- Brings what was prepared to the service: the article, what came of it, and whether it was created once
more. -/
def deliver (id : Text) (s : Shipment) : Run σ (ArticleRecord × PushStatus × Bool) := do
  let remote := (← get).state.remoteState id
  Run.handle (do
      let (record, status) ← p.transmit id remote s
      return (record, status, false)) fun f =>
    match remote.isPublished, f.missingArticle? with
    | true, some e => do
      let (record, status) ← p.recover id e s
      return (record, status, true)
    | _, _ => throw f

/-- The result of what was prepared and delivered. -/
def delivered (id : Text) (prepared : Prepared) (record : ArticleRecord) (status : PushStatus)
    (recreated : Bool) : PushResult where
  contentId := id
  status := status
  record := some record
  error := none
  messages := prepared.messages ++ if recreated then [PushWording.recreated id] else []
  recreated := recreated
  checksum := prepared.check.fingerprint

/-- The result of what was prepared and is in sync. -/
def skippedInSync (id : Text) (prepared : Prepared) : PushResult :=
  { PushResult.brief id .skipped (prepared.messages ++ [PushWording.inSync id]) with
    checksum := prepared.check.fingerprint }

/-- Sends what was prepared, and notes what came of it. -/
def send (id : Text) (prepared : Prepared) : Run σ PushResult := do
  let (record, status, recreated) ← p.deliver id prepared.shipment
  Run.onState fun s => (s.saveRecord id record).setChecksum id prepared.check.fingerprint
  return delivered id prepared record status recreated

/-- Prepares what is sent for a content item, and sends it unless it is in sync. -/
def exportAndSend (room : Text) (c : Content) : Run σ PushResult := do
  let prepared ← p.prepare room c
  Run.failing (p.overrideFailure? prepared.check)
  if prepared.check.inSync p.override then
    return skippedInSync c.label prepared
  else p.send c.label prepared

/-- The world in which a push has ended. -/
def settled (id room : Text) (w : World σ) : World σ :=
  { w with state := w.state.clearMarkers id, temporary := Table.erase room w.temporary }

/-- Opens a workspace, and gives its name. -/
def openWorkspace (id : Text) : Run σ Text := do
  let space ← Run.ofFault (Workspace.create [] id)
  let room := Workspace.freshName id (Table.keys (← get).temporary)
  modify fun w => { w with temporary := Table.set room space w.temporary }
  return room

/-- Pushes a content item. -/
def push (id : Text) : Run σ PushResult := do
  match ← p.accept id with
  | .error result => return result
  | .ok c =>
    let room ← openWorkspace id
    Run.andFinally (p.exportAndSend room c) (settled id room)

/-- Queues the push of a content item. -/
def queue (id : Text) : Run σ PushResult := do
  match p.scheduler with
  | none => throw (.error (.configuration PushWording.noScheduler))
  | some schedule =>
    Run.reach id
    if (← get).state.isPending id then return .brief id .skipped [PushWording.pending id]
    Run.onState (·.markPending id)
    modify fun w => { w with queued := w.queued ++ [id] }
    match ← schedule id with
    | some refusal =>
      Run.onState (·.clearPending id)
      throw (.error (.scheduling id refusal))
    | none => return .brief id .queued []

/-- The result of a push that has failed: an error of the export or push is reported, and any other failure
is raised. -/
def reported (id : Text) : Failure → Run σ PushResult
  | .error e => return .failed id e
  | .fault f => throw (.fault f)

/-- Pushes a content item, or queues its push. -/
def perform (id : Text) (scheduled : Bool) : Run σ PushResult := do
  if (← get).isQueueing scheduled then Run.handle (p.queue id) (reported id)
  else Run.handle (p.push id) (reported id)

end PushSetup

end ArticleExport
