import ArticleExport.Publish.Record

/-!
# The publishing service

What a client of the publishing service can do.  Its calls change a state, which stands for the service and
the way to it.
-/

namespace ArticleExport

/-- A call of the service: from the state before to the state after, with a result. -/
abbrev ApiCall (σ α : Type) := σ → σ × Except Failure α

/-- A client of the publishing service. -/
structure PublishingApi (σ : Type) where
  /-- Creates an article from a document, in a channel, with bundles and metadata. -/
  create : (document : Json) → (channel : Text) → (bundles : List Text) → (metadata : Table Json) →
    ApiCall σ ArticleRecord
  /-- Replaces the revision of an article by a document with bundles and metadata. -/
  update : (remoteId revision : Text) → (document : Json) → (bundles : List Text) →
    (metadata : Table Json) → ApiCall σ ArticleRecord
  /-- Asks for an article. -/
  get : (remoteId : Text) → ApiCall σ ArticleRecord
  /-- Asks for a channel. -/
  channel : (channel : Text) → ApiCall σ (Table Json)

/-- A call of a service whose state is part of a larger one. -/
def ApiCall.within {σ τ α : Type} (part : τ → σ) (put : σ → τ → τ) (f : ApiCall σ α) : ApiCall τ α :=
  fun t => (put (f (part t)).1 t, (f (part t)).2)

/-- A client of a service whose state is part of a larger one. -/
def PublishingApi.within {σ τ : Type} (part : τ → σ) (put : σ → τ → τ) (api : PublishingApi σ) :
    PublishingApi τ where
  create document channel bundles metadata :=
    (api.create document channel bundles metadata).within part put
  update remoteId revision document bundles metadata :=
    (api.update remoteId revision document bundles metadata).within part put
  get remoteId := (api.get remoteId).within part put
  channel channel := (api.channel channel).within part put

end ArticleExport
