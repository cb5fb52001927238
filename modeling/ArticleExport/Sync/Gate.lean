import ArticleExport.Sync.Fingerprint

/-!
# The sync gate

Decides whether a fresh export is what was published last: a fingerprint is stored and equals the
fresh one.  An override may replace the decision.
-/

namespace ArticleExport

/-- Whether a stored fingerprint is there and equals a fresh one. -/
def isInSync (stored : Option Text) (fresh : Text) : Bool :=
  match stored with
  | some t => !t.isEmpty && t == fresh
  | none => false

/-- What a sync decision is made of. -/
structure SyncCheck where
  /-- The content in question. -/
  contentId : Text
  /-- The fingerprint of what was published last. -/
  stored : Option Text
  /-- The fingerprint of the fresh export. -/
  fingerprint : Text
  /-- The fresh document. -/
  document : Json
  /-- The publish metadata. -/
  metadata : Table Json
  /-- The bundles. -/
  bundles : List Text

/-- A replacement for the decision, which is told the default one. -/
abbrev SyncOverride := Bool → SyncCheck → Bool

namespace SyncCheck

/-- The decision without an override. -/
def defaultDecision (c : SyncCheck) : Bool := isInSync c.stored c.fingerprint

/-- The decision. -/
def inSync (c : SyncCheck) (override : Option SyncOverride) : Bool :=
  match override with
  | none => c.defaultDecision
  | some decide => decide c.defaultDecision c

/-- The check of a fresh export. -/
def ofExport (contentId : Text) (stored : Option Text) (document : Json) (metadata : Table Json)
    (bundles : List Text) : Except Fault SyncCheck := do
  let fresh ← ArticleExport.fingerprint document metadata bundles
  return ⟨contentId, stored, fresh, document, metadata, bundles⟩

end SyncCheck

end ArticleExport
