import ArticleExport.Article.Mapping
import ArticleExport.Number.Seconds
import ArticleExport.Publish.Record

/-!
# Publish state

What is known about the pushes of each content item: the identity of its remote article, the fingerprint of
what was last accepted, and the markers of a push that is queued or under way.  Besides, values may be kept
for a while under names of their own.

The state is kept in memory or in a file.  A file holds rows of texts only: other values become texts in
it, or cannot be kept in it at all.
-/

namespace ArticleExport

/-- A value that is kept until it expires. -/
structure Transient where
  /-- The value. -/
  value : Json
  /-- When it expires. -/
  expires : Seconds
deriving DecidableEq

/-- A row of a file: the value under a key of a content item. -/
structure ValueRow where
  /-- The content item. -/
  id : Text
  /-- The key. -/
  key : Text
  /-- The value. -/
  value : Text
deriving DecidableEq, Repr

/-- Whether a row is that of an item and key. -/
def ValueRow.isFor (id key : Text) (r : ValueRow) : Bool := r.id == id && r.key == key

/-- A row of a file: a value under a name that is kept until it expires. -/
structure TransientRow where
  /-- The name. -/
  name : Text
  /-- The value. -/
  value : Text
  /-- When it expires. -/
  expires : Seconds
deriving DecidableEq, Repr

/-- What is kept, and where. -/
inductive Holdings where
  /-- In memory: any values, by content item and key, and those that expire, by name. -/
  | memory (values : Table (KeyTable Json)) (transients : KeyTable Transient)
  /-- In a file: rows of texts, no two of them for one item and key or for one name. -/
  | file (rows : List ValueRow) (transients : List TransientRow)
deriving DecidableEq

namespace Holdings

/-- Nothing in memory. -/
def inMemory : Holdings := memory [] []

/-- Nothing in a file. -/
def inFile : Holdings := file [] []

/-- The numbers of which a file keeps every digit lie below this one, and at or above its negative. -/
def wholeBound : Int := Nat.pow 2 63

/-- What keeps a plain value from being written to a file or looked up in it. -/
def keyFault? : Key → Option Fault
  | .text t => if t.IsScalar then none else some .unencodable
  | .int n => if -wholeBound ≤ n ∧ n < wholeBound then none else some .oversizedNumber
  | _ => none

/-- What keeps plain values from being used as names here, where something does. -/
def nameFault? : Holdings → List Key → Option Fault
  | memory _ _, _ => none
  | file _ _, names => names.findSome? keyFault?

/-- The name that a value is; a list or an object is none. -/
def nameOf (h : Holdings) (v : Json) : Except Fault Key :=
  match v.key?, h with
  | some k, _ => .ok k
  | none, memory _ _ => .error (.noKey v.kindName)
  | none, file _ _ => .error .unstorable

/-- The text that a file keeps for a plain value; null and what is not a number have none. -/
def fileKey? : Key → Option Text
  | .null => none
  | .bool b => some (if b then "1" else "0")
  | .int n => some (Text.ofInt n)
  | .float x => if x.isNaN then none else some (DecimalNotation.rounded.write x)
  | .text t => some t

/-- The text that a file keeps for a value. -/
def fileText (v : Json) : Except Fault Text :=
  match v.key? with
  | none => .error .unstorable
  | some k =>
    match keyFault? k, fileKey? k with
    | some f, _ => .error f
    | none, some t => .ok t
    | none, none => .error .missingValue

/-- Whether a whole number is a floating-point number as well: no bit of it lies 53 places or more below
its highest one. -/
def isBinary (n : Int) : Bool := n.natAbs % Nat.pow 2 (n.natAbs.log2 - 52) == 0

/-- The time that a file keeps for a time: the nearest floating-point number.  What is not a number is none. -/
def fileTime : Seconds → Except Fault Seconds
  | .real x => if x.isNaN then .error .missingValue else .ok (.real x)
  | .whole n =>
    if -wholeBound ≤ n ∧ n < wholeBound then
      .ok (if isBinary n then .whole n else .real (Float.ofInt n))
    else .error .oversizedNumber

/-- The value of a key of a content item, null where it has none. -/
def get (id : Text) (key : Key) : Holdings → Json
  | memory values _ => (((Table.get? id values).getD []) |> KeyTable.get? key).getD .null
  | file rows _ =>
    match fileKey? key with
    | some key => ((rows.find? (ValueRow.isFor id key)).map fun r => Json.str r.value).getD .null
    | none => .null

/-- Gives a key of a content item a text as its value. -/
def set (id key t : Text) : Holdings → Holdings
  | memory values transients =>
    memory (Table.set id (KeyTable.set (.text key) (.str t) ((Table.get? id values).getD [])) values)
      transients
  | file rows transients =>
    file (rows.filter (fun r => !ValueRow.isFor id key r) ++ [⟨id, key, t⟩]) transients

/-- Gives a key of a content item any value. -/
def put (id : Text) (key : Key) (v : Json) : Holdings → Except Fault Holdings
  | memory values transients =>
    .ok (memory (Table.set id (KeyTable.set key v ((Table.get? id values).getD [])) values) transients)
  | file rows transients => do
    let t ← fileText v
    match fileKey? key with
    | some key => return (file rows transients).set id key t
    | none => throw .missingValue

/-- Takes a key of a content item away. -/
def delete (id : Text) (key : Key) : Holdings → Holdings
  | memory values transients =>
    match Table.get? id values with
    | some entries => memory (Table.set id (KeyTable.erase key entries) values) transients
    | none => memory values transients
  | file rows transients =>
    match fileKey? key with
    | some key => file (rows.filter fun r => !ValueRow.isFor id key r) transients
    | none => file rows transients

/-- The value under a name, with the time when it expires. -/
def transient? (name : Key) : Holdings → Option Transient
  | memory _ transients => KeyTable.get? name transients
  | file _ transients =>
    (transients.find? fun r => fileKey? name == some r.name).map fun r => ⟨.str r.value, r.expires⟩

/-- Keeps a value under a name until a time.  What is kept under null in a file is never found again. -/
def putTransient (name : Key) (v : Json) (expires : Seconds) : Holdings → Except Fault Holdings
  | memory values transients => .ok (memory values (KeyTable.set name ⟨v, expires⟩ transients))
  | file rows transients => do
    let t ← fileText v
    let expires ← fileTime expires
    match fileKey? name with
    | some name =>
      return file rows (transients.filter (fun r => r.name != name) ++ [⟨name, t, expires⟩])
    | none => return file rows transients

/-- Drops the value under a name. -/
def deleteTransient (name : Key) : Holdings → Holdings
  | memory values transients => memory values (KeyTable.erase name transients)
  | file rows transients => file rows (transients.filter fun r => fileKey? name != some r.name)

/-- A row among others, where it is for none of the wanted places. -/
theorem find?_filter_not_isFor (rows : List ValueRow) (id key id' key' : Text) :
    (rows.filter fun r => !ValueRow.isFor id key r).find? (ValueRow.isFor id' key') =
      if id = id' ∧ key = key' then none else rows.find? (ValueRow.isFor id' key') := by
  rw [List.find?_filter]
  split
  · rename_i h
    obtain ⟨rfl, rfl⟩ := h
    simp
  · rename_i h
    congr 1
    funext r
    simp only [ValueRow.isFor]
    grind

/-- A text shows at the item and key that it was given to, and nowhere else. -/
theorem get_set (h : Holdings) (id key t id' key' : Text) :
    (h.set id key t).get id' (.text key') =
      if id = id' ∧ key = key' then .str t else h.get id' (.text key') := by
  cases h with
  | memory values transients =>
    simp only [set, get, Table.get?_set]
    by_cases hid : id = id'
    · subst hid
      simp only [if_true, Option.getD_some, KeyTable.get?_set, Key.canonical_text, Key.text.injEq,
        true_and]
      split <;> simp
    · simp [hid]
  | file rows transients =>
    simp only [set, get, fileKey?, List.find?_append, find?_filter_not_isFor]
    by_cases h : id = id' ∧ key = key'
    · obtain ⟨rfl, rfl⟩ := h
      simp [ValueRow.isFor]
    · have : ValueRow.isFor id' key' ⟨id, key, t⟩ = false := by
        simp only [ValueRow.isFor]
        grind
      simp [h, this]

/-- A key that is taken away is gone, and all others stay. -/
theorem get_delete (h : Holdings) (id key id' key' : Text) :
    (h.delete id (.text key)).get id' (.text key') =
      if id = id' ∧ key = key' then .null else h.get id' (.text key') := by
  cases h with
  | memory values transients =>
    simp only [delete]
    cases hv : Table.get? id values with
    | none =>
      simp only [get]
      by_cases hid : id = id'
      · subst hid
        simp [hv]
      · simp [hid]
    | some entries =>
      simp only [get, Table.get?_set]
      by_cases hid : id = id'
      · subst hid
        simp only [if_true, Option.getD_some, KeyTable.get?_erase, Key.canonical_text, Key.text.injEq,
          true_and, hv]
        split <;> simp
      · simp [hid]
  | file rows transients =>
    simp only [delete, get, fileKey?, find?_filter_not_isFor]
    split <;> simp

end Holdings

/-- The publish state of all content items. -/
structure StateStore where
  /-- The time. -/
  now : Seconds
  /-- What is kept. -/
  holdings : Holdings
deriving DecidableEq

/-- What is known about the remote article of a content item; what is not known is empty. -/
structure RemoteState where
  /-- The identifier at the service. -/
  remoteId : Json
  /-- The revision. -/
  revision : Json
  /-- When it was created. -/
  createdAt : Json
  /-- When it was changed. -/
  modifiedAt : Json
  /-- Where it can be shared. -/
  shareUrl : Json
deriving DecidableEq

/-- The remote article of a content item of which nothing is known. -/
def RemoteState.unknown : RemoteState := ⟨.str [], .str [], .str [], .str [], .str []⟩

/-- Whether the content item is published. -/
def RemoteState.isPublished (r : RemoteState) : Bool := r.remoteId.isTruthy

namespace StateStore

/-- The key of the remote identifier. -/
def remoteIdKey : Text := "api_id"

/-- The key of the revision. -/
def revisionKey : Text := "api_revision"

/-- The key of the date of creation. -/
def createdKey : Text := "api_created_at"

/-- The key of the date of the last change. -/
def modifiedKey : Text := "api_modified_at"

/-- The key of the address for sharing. -/
def shareKey : Text := "api_share_url"

/-- The key of the mark of a deleted article. -/
def deletedKey : Text := "api_deleted"

/-- The key of the fingerprint of what was last accepted. -/
def checksumKey : Text := "article_checksum"

/-- The key of the marker of a queued push. -/
def pendingKey : Text := "api_pending"

/-- The key of the marker of a push under way. -/
def inProgressKey : Text := "api_async_in_progress"

/-- The keys of the identity of the remote article. -/
def remoteKeys : List Text := [remoteIdKey, revisionKey, createdKey, modifiedKey, shareKey]

/-- What keeps texts from being used as names, where something does. -/
def nameFault? (s : StateStore) (names : List Key) : Option Fault := s.holdings.nameFault? names

/-- The value of a key of a content item, null where it has none. -/
def get (s : StateStore) (id : Text) (key : Key) : Json := s.holdings.get id key

/-- Gives a key of a content item a text as its value. -/
def set (s : StateStore) (id key t : Text) : StateStore :=
  { s with holdings := s.holdings.set id key t }

/-- Gives a key of a content item any value, in the form in which it is kept. -/
def put (s : StateStore) (id : Text) (key : Key) (v : Json) : Except Fault StateStore :=
  (s.holdings.put id key v).map fun h => { s with holdings := h }

/-- Takes a key of a content item away. -/
def delete (s : StateStore) (id : Text) (key : Key) : StateStore :=
  { s with holdings := s.holdings.delete id key }

theorem get_set (s : StateStore) (id key t id' key' : Text) :
    (s.set id key t).get id' (.text key') =
      if id = id' ∧ key = key' then .str t else s.get id' (.text key') :=
  s.holdings.get_set id key t id' key'

theorem get_delete (s : StateStore) (id key id' key' : Text) :
    (s.delete id (.text key)).get id' (.text key') =
      if id = id' ∧ key = key' then .null else s.get id' (.text key') :=
  s.holdings.get_delete id key id' key'

/-- The time after a span. -/
def later (s : StateStore) (span : Seconds) : Except Fault Seconds :=
  match s.now.add? span with
  | some t => .ok t
  | none => .error .oversizedNumber

/-- The state at another time. -/
def advance (s : StateStore) (span : Seconds) : Except Fault StateStore :=
  (s.later span).map fun t => { s with now := t }

/-- The value under a name, null where there is none or it has expired; an expired one is dropped. -/
def transient (s : StateStore) (name : Key) : Json × StateStore :=
  match s.holdings.transient? name with
  | none => (.null, s)
  | some t =>
    if t.expires.le s.now then (.null, { s with holdings := s.holdings.deleteTransient name })
    else (t.value, s)

/-- Keeps any value under a name for a while, in the form in which it is kept. -/
def putTransient (s : StateStore) (name : Key) (v : Json) (span : Seconds) :
    Except Fault StateStore := do
  let expires ← s.later span
  return { s with holdings := ← s.holdings.putTransient name v expires }

/-- Drops the value under a name. -/
def deleteTransient (s : StateStore) (name : Key) : StateStore :=
  { s with holdings := s.holdings.deleteTransient name }

/-- The value of a key of a content item, the empty text where it is not set. -/
def getOrEmpty (s : StateStore) (id : Text) (key : Key) : Json :=
  let v := s.get id key
  if v.isTruthy then v else .str []

/-- What is known about the remote article of a content item. -/
def remoteState (s : StateStore) (id : Text) : RemoteState :=
  ⟨s.getOrEmpty id remoteIdKey, s.getOrEmpty id revisionKey, s.getOrEmpty id createdKey,
    s.getOrEmpty id modifiedKey, s.getOrEmpty id shareKey⟩

/-- Notes the identity of the remote article of a content item. -/
def saveRecord (s : StateStore) (id : Text) (r : ArticleRecord) : StateStore :=
  let s := s.set id remoteIdKey r.id
  let s := s.set id revisionKey r.revision
  let s := s.set id createdKey (r.createdAt.getD [])
  let s := s.set id modifiedKey (r.modifiedAt.getD [])
  let s := s.set id shareKey (r.shareUrl.getD [])
  s.delete id deletedKey

/-- Notes the revision of the remote article of a content item. -/
def setRevision (s : StateStore) (id revision : Text) : StateStore :=
  s.set id revisionKey revision

/-- Forgets the remote article of a content item, and what was last accepted. -/
def clearRemoteState (s : StateStore) (id : Text) : StateStore :=
  (remoteKeys ++ [checksumKey]).foldl (fun s (key : Text) => s.delete id key) s

/-- The fingerprint of what was last accepted for a content item, null where there is none. -/
def checksum (s : StateStore) (id : Text) : Json := s.get id checksumKey

/-- Notes the fingerprint of what was accepted for a content item. -/
def setChecksum (s : StateStore) (id fingerprint : Text) : StateStore :=
  s.set id checksumKey fingerprint

/-- The text of a marker that is set now. -/
def stamp (s : StateStore) : Text := Text.ofInt s.now.truncate

/-- Marks a push of a content item as queued. -/
def markPending (s : StateStore) (id : Text) : StateStore := s.set id pendingKey s.stamp

/-- Takes the marker of a queued push away. -/
def clearPending (s : StateStore) (id : Text) : StateStore := s.delete id pendingKey

/-- Whether a push of a content item is marked as queued. -/
def isPending (s : StateStore) (id : Text) : Bool := (s.get id pendingKey).isTruthy

/-- Marks a push of a content item as under way. -/
def markInProgress (s : StateStore) (id : Text) : StateStore := s.set id inProgressKey s.stamp

/-- Takes the marker of a push under way away. -/
def clearInProgress (s : StateStore) (id : Text) : StateStore := s.delete id inProgressKey

/-- Whether a push of a content item is marked as under way. -/
def isInProgress (s : StateStore) (id : Text) : Bool := (s.get id inProgressKey).isTruthy

/-- Takes both markers of a content item away. -/
def clearMarkers (s : StateStore) (id : Text) : StateStore := (s.clearPending id).clearInProgress id

/-- Without its markers a content item reads as before at every other key. -/
theorem get_clearMarkers (s : StateStore) (id id' key' : Text) :
    (s.clearMarkers id).get id' (.text key') =
      if id = id' ∧ (pendingKey = key' ∨ inProgressKey = key') then .null
      else s.get id' (.text key') := by
  simp only [clearMarkers, clearPending, clearInProgress, get_delete]
  grind

end StateStore

end ArticleExport
