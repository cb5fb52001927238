import ArticleExport.Json.Access
import ArticleExport.Publish.Api

/-!
# A service for rehearsals

A publishing service in memory, with which pushes can be tried without the real one.  It keeps articles,
notes every call, and fails where it has been told to.
-/

namespace ArticleExport

/-- The service for rehearsals. -/
structure Rehearsal where
  /-- The articles by identifier. -/
  articles : Table ArticleRecord
  /-- How many articles were created. -/
  created : Nat
  /-- How many revisions were given out. -/
  revisions : Nat
  /-- The failures that wait for a call, with its name. -/
  failures : List (Text × RemoteError)
  /-- The channel. -/
  channel : Table Json
  /-- The calls: each with its name and what it was given. -/
  calls : List Json

namespace Rehearsal

/-- The service before the first call. -/
def initial : Rehearsal := ⟨[], 0, 0, [], [("id", "channel-1"), ("name", "Test Channel")], []⟩

/-- The first failure that waits for a call, and the others. -/
def takeFailure (name : Text) :
    List (Text × RemoteError) → Option RemoteError × List (Text × RemoteError)
  | [] => (none, [])
  | f :: fs =>
    if f.1 = name then (some f.2, fs)
    else ((takeFailure name fs).1, f :: (takeFailure name fs).2)

/-- A call that is noted, and fails where a failure waits for it. -/
def noted {α : Type} (name : Text) (given : List Json) (f : ApiCall Rehearsal α) :
    ApiCall Rehearsal α := fun s =>
  let s := { s with calls := s.calls ++ [.arr (.str name :: given)] }
  match takeFailure name s.failures with
  | (some e, rest) => ({ s with failures := rest }, .error (.error (.remote e)))
  | (none, _) => f s

/-- The failure of a call for an article that is not there. -/
def gone : Failure := .error (.remote (.ofCode RemoteError.goneCode [RemoteError.articleKey] none none))

/-- The next revision. -/
def nextRevision (s : Rehearsal) : Text := ("rev-" : Text) ++ Text.ofNat (s.revisions + 1)

/-- The date of everything that happens. -/
def day : Text := "2026-01-01T00:00:00Z"

/-- The record of the next article. -/
def nextRecord (s : Rehearsal) : ArticleRecord :=
  let id := ("article-" : Text) ++ Text.ofNat (s.created + 1)
  ⟨id, s.nextRevision, some day, some day, some (("https://news.example.com/" : Text) ++ id)⟩

/-- The service with an article at its next revision. -/
def keep (s : Rehearsal) (id : Text) (r : ArticleRecord) : Rehearsal :=
  { s with articles := Table.set id r s.articles, revisions := s.revisions + 1 }

/-- What is noted about a document that is sent. -/
def noteOf (document : Json) (bundles : List Text) (metadata : Table Json) : List Json :=
  [document.field "identifier", .texts bundles, .obj metadata]

/-- The client of the service. -/
def api : PublishingApi Rehearsal where
  create document channel bundles metadata :=
    noted "create_article" (.str channel :: noteOf document bundles metadata) fun s =>
      let r := s.nextRecord
      ({ s.keep r.id r with created := s.created + 1 }, .ok r)
  update remoteId revision document bundles metadata :=
    noted "update_article" (.str remoteId :: .str revision :: noteOf document bundles metadata) fun s =>
      match Table.get? remoteId s.articles with
      | none => (s, .error gone)
      | some r =>
        let r := { r with revision := s.nextRevision }
        (s.keep remoteId r, .ok r)
  get remoteId := noted "get_article" [.str remoteId] fun s =>
    (s, match Table.get? remoteId s.articles with
      | some r => .ok r
      | none => .error gone)
  channel channel := noted "get_channel" [.str channel] fun s => (s, .ok s.channel)

/-- A record with fields set by plain name. -/
def amended (r : ArticleRecord) (fields : Table Json) : ArticleRecord :=
  let newer (name : Text) (old : Option Text) : Option Text :=
    match Table.get? name fields with
    | some v => v.text?
    | none => old
  ⟨(newer "id" (some r.id)).getD [], (newer "revision" (some r.revision)).getD [],
    newer "created_at" r.createdAt, newer "modified_at" r.modifiedAt, newer "share_url" r.shareUrl⟩

/-- The service with fields of an article set, where it has the article. -/
def amend (s : Rehearsal) (id : Text) (fields : Table Json) : Rehearsal :=
  match Table.get? id s.articles with
  | some r => { s with articles := Table.set id (amended r fields) s.articles }
  | none => s

end Rehearsal

end ArticleExport
