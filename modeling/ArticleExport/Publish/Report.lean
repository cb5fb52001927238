import ArticleExport.Failure.Report
import ArticleExport.Publish.Http
import ArticleExport.Publish.Push

/-!
# Reports of pushes

What came of a push, and what is known about a content item, as JSON.
-/

namespace ArticleExport

/-- A record as JSON. -/
def ArticleRecord.report (r : ArticleRecord) : Json := .obj r.toTable

/-- A request as JSON: the method, the address and the body. -/
def Request.report (r : Request) : Json := .arr [.str r.method, .str r.url, r.body.getD .null]

/-- The result of a push as JSON. -/
def PushResult.report (r : PushResult) : Json :=
  .object [("content_id", .str r.contentId), ("status", .str r.status.name), ("ok", .bool r.isOk),
    ("record", (r.record.map ArticleRecord.report).getD .null),
    ("error", (r.error.map ExportError.report).getD .null), ("messages", .texts r.messages),
    ("recreated", .bool r.recreated), ("checksum", .str r.checksum),
    ("raises", .bool r.error.isSome)]

/-- What is known about a content item, as JSON. -/
def StateStore.report (s : StateStore) (id : Text) : Json :=
  let r := s.remoteState id
  .object [("remote", .arr [r.remoteId, r.revision, r.createdAt, r.modifiedAt, r.shareUrl]),
    ("published", .bool r.isPublished), ("checksum", s.checksum id),
    ("pending", .bool (s.isPending id)), ("in_progress", .bool (s.isInProgress id))]

end ArticleExport
