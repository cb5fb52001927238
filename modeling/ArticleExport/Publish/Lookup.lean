import ArticleExport.Publish.Push

/-!
# Looking things up at the service

The article of a content item, and the channel.  The channel is kept for a few minutes, and so is the fact
that there is none.
-/

namespace ArticleExport.Lookup

variable {σ : Type} (api : PublishingApi σ)

/-- The article of a content item, where it is published. -/
def articleOf (id : Text) : Run σ (Option ArticleRecord) := do
  Run.reach id
  let remote := (← get).state.remoteState id
  if remote.isPublished then some <$> Run.call (api.get remote.remoteId.shown) else return none

/-- A field of the article of a content item by name, or a default where it is empty. -/
def fieldOf (id name : Text) (default : Json) : Run σ Json := do
  match ← articleOf api id with
  | none => return default
  | some record =>
    match Table.get? name record.toTable with
    | some v => return if v.isNull then default else v
    | none => return default

/-- The name under which the channel is kept. -/
def channelKey : Text := "channel"

/-- How many seconds the channel is kept. -/
def channelLifetime : Int := 300

/-- The channel as text, fresh from the service; empty where it cannot be had. -/
def freshChannel : Run σ Text := do
  let settings := (← get).settings
  if settings.isApiConfigured then
    Run.handle (do
      let channel ← Run.call (api.channel settings.apiChannel)
      return Json.print .plainAscii (.obj channel)) fun
      | .error (.remote _) => return []
      | f => throw f
  else return []

/-- The channel as it is kept, null where it is not. -/
def keptChannel : Run σ Json := do
  let w ← get
  let (kept, state) := w.state.transient channelKey
  set { w with state := state }
  return kept

/-- Keeps the channel for its lifetime. -/
def keepChannel (kept : Json) : Run σ Unit := do
  let w ← get
  let state ← Run.ofFault (w.state.putTransient channelKey kept (.whole channelLifetime))
  set { w with state := state }

/-- The channel that is kept as text. -/
def readChannel (kept : Json) : Except Fault Json :=
  if !kept.isTruthy then .ok .null
  else match kept with
    | .str t =>
      (Json.read t).map fun v => if v.isTruthy then v else .null
    | v => .error (.notAText 0 v.kindName)

/-- The channel, null where it cannot be had.  Whatever is found is kept from now on for its lifetime. -/
def currentChannel : Run σ Json := do
  let kept ← keptChannel
  let kept ← if kept.isNull then Json.str <$> freshChannel api else pure kept
  keepChannel kept
  Run.ofFault (readChannel kept)

end ArticleExport.Lookup
