import ArticleExport.Failure
import ArticleExport.Json.Access
import ArticleExport.Settings.Conversion

/-!
# Records of remote articles

What the publishing service says about an article of its own: its identifier and revision, when it was
created and changed, and where it can be shared.
-/

namespace ArticleExport

/-- A remote article as the service reports it. -/
structure ArticleRecord where
  /-- The identifier at the service. -/
  id : Text
  /-- The revision. -/
  revision : Text
  /-- When it was created. -/
  createdAt : Option Text
  /-- When it was changed. -/
  modifiedAt : Option Text
  /-- Where it can be shared. -/
  shareUrl : Option Text
deriving DecidableEq, Repr

namespace ArticleRecord

/-- The first of some names under which an object has a value, and the value. -/
def lookup (names : List Text) (data : Table Json) : Option (Text × Json) :=
  names.findSome? fun name => (Table.get? name data).map fun v => (name, v)

/-- Reads a field that may stand under several names; without one it has a value of its own. -/
def field {α : Type} (names : List Text) (missing : Except Problem α) (read : Json → Except Problem α)
    (data : Table Json) : Except FieldIssue α :=
  match lookup names data with
  | some (name, v) => (read v).mapError fun problem => ⟨[name], problem⟩
  | none => missing.mapError fun problem => ⟨[names.head?.getD []], problem⟩

/-- The problem of a field, where it has one. -/
def issueOf {α : Type} : Except FieldIssue α → List FieldIssue
  | .ok _ => []
  | .error i => [i]

/-- The record of an object.  The dates and the address may stand under the names of the service or
under plain ones, and the names of the service count first. -/
def ofJson (data : Table Json) : Except (List FieldIssue) ArticleRecord :=
  let optional (names : List Text) := field names (.ok none) Conversion.textOrNull data
  let id := field ["id"] (.error .missing) Conversion.text data
  let revision := field ["revision"] (.ok []) Conversion.text data
  let created := optional ["createdAt", "created_at"]
  let modified := optional ["modifiedAt", "modified_at"]
  let share := optional ["shareUrl", "share_url"]
  match id, revision, created, modified, share with
  | .ok id, .ok revision, .ok created, .ok modified, .ok share =>
    .ok ⟨id, revision, created, modified, share⟩
  | _, _, _, _, _ =>
    .error (issueOf id ++ issueOf revision ++ issueOf created ++ issueOf modified ++ issueOf share)

/-- The record that a value is. -/
def read : Json → Except Fault ArticleRecord
  | .obj data => (ofJson data).mapError .invalidFields
  | _ => .error .notARecord

/-- The fields of the record by plain name. -/
def toTable (r : ArticleRecord) : Table Json :=
  [("id", .str r.id), ("revision", .str r.revision), ("created_at", .orNull r.createdAt),
    ("modified_at", .orNull r.modifiedAt), ("share_url", .orNull r.shareUrl)]

end ArticleRecord

end ArticleExport
