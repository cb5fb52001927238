import ArticleExport.Publish.State

/-!
# Operations on the publish state

Every operation on the publish state as a value, and what it does to the state.  A run of operations is a
list of them.
-/

namespace ArticleExport

/-- The markers of a content item. -/
inductive Marker where
  /-- A push is queued. -/
  | pending
  /-- A push is under way. -/
  | inProgress
deriving DecidableEq, Repr

/-- An operation on the publish state. -/
inductive StateOp where
  /-- The value of a key. -/
  | get (id : Text) (key : Key)
  /-- Gives a key a value. -/
  | put (id : Text) (key : Key) (v : Json)
  /-- Takes a key away. -/
  | delete (id : Text) (key : Key)
  /-- The value under a name. -/
  | transient (name : Key)
  /-- Keeps a value under a name for a while. -/
  | putTransient (name : Key) (v : Json) (span : Seconds)
  /-- Drops the value under a name. -/
  | deleteTransient (name : Key)
  /-- Notes the identity of the remote article. -/
  | saveRecord (id : Text) (r : ArticleRecord)
  /-- Forgets the remote article. -/
  | clearRemoteState (id : Text)
  /-- What is known about the remote article. -/
  | remoteState (id : Text)
  /-- Sets a marker. -/
  | mark (m : Marker) (id : Text)
  /-- Whether a marker is set. -/
  | isMarked (m : Marker) (id : Text)
  /-- Takes a marker away. -/
  | unmark (m : Marker) (id : Text)
  /-- Takes both markers away. -/
  | clearMarkers (id : Text)
  /-- Lets time pass. -/
  | advance (span : Seconds)

/-- What is known about a remote article, by name. -/
def RemoteState.toTable (r : RemoteState) : Table Json :=
  [("remote_id", r.remoteId), ("revision", r.revision), ("created_at", r.createdAt),
    ("modified_at", r.modifiedAt), ("share_url", r.shareUrl)]

namespace StateOp

/-- The names that an operation uses. -/
def names : StateOp → List Key
  | get id key | put id key _ | delete id key => [id, key]
  | transient name | putTransient name _ _ | deleteTransient name => [name]
  | saveRecord id _ | clearRemoteState id | remoteState id | mark _ id | isMarked _ id | unmark _ id
  | clearMarkers id => [id]
  | advance _ => []

/-- The state after a change, or the state before and what kept the change from being made. -/
def kept (s : StateStore) : Except Fault StateStore → StateStore × Except Fault Json
  | .ok s => (s, .ok .null)
  | .error f => (s, .error f)

/-- What an operation does, where its names can be used. -/
def apply (s : StateStore) : StateOp → StateStore × Except Fault Json
  | get id key => (s, .ok (s.get id key))
  | put id key v => kept s (s.put id key v)
  | delete id key => (s.delete id key, .ok .null)
  | transient name => ((s.transient name).2, .ok (s.transient name).1)
  | putTransient name v span => kept s (s.putTransient name v span)
  | deleteTransient name => (s.deleteTransient name, .ok .null)
  | saveRecord id r => (s.saveRecord id r, .ok .null)
  | clearRemoteState id => (s.clearRemoteState id, .ok .null)
  | remoteState id => (s, .ok (.obj (s.remoteState id).toTable))
  | mark .pending id => (s.markPending id, .ok .null)
  | mark .inProgress id => (s.markInProgress id, .ok .null)
  | isMarked .pending id => (s, .ok (.bool (s.isPending id)))
  | isMarked .inProgress id => (s, .ok (.bool (s.isInProgress id)))
  | unmark .pending id => (s.clearPending id, .ok .null)
  | unmark .inProgress id => (s.clearInProgress id, .ok .null)
  | clearMarkers id => (s.clearMarkers id, .ok .null)
  | advance span =>
    match s.advance span with
    | .ok s => (s, .ok s.now.toJson)
    | .error f => (s, .error f)

/-- The state after an operation, and its result. -/
def run (s : StateStore) (op : StateOp) : StateStore × Except Fault Json :=
  match s.nameFault? op.names with
  | some f => (s, .error f)
  | none => apply s op

end StateOp

end ArticleExport
