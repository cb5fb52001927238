import ArticleExport.Proofs.Push.Calls

/-!
# What a delivery can do

Everything that bringing a shipment to the service can come to, said once: which
calls are made, how the publish state changes on the way, and what the outcome
is.  An item without a remote article is created.  One that has a remote article
is looked up, which tells its revision, and then updated at that revision; where
either call says that the article is gone, it is forgotten and created once.

`PushSetup.deliver_delivery` is the only statement here that opens the
definition of a delivery.  What later modules say about calls, identities and
fingerprints is read off the cases of `Delivery`.
-/

namespace ArticleExport

variable {σ : Type}

namespace Shipment

/-- The call that creates an article from a shipment. -/
def creating (s : Shipment) (channel : Text) (outcome : Except Failure ArticleRecord) :
    ServiceCall :=
  .create (.obj s.document) channel s.bundles s.metadata outcome

/-- The call that replaces a revision of an article by a shipment. -/
def updating (s : Shipment) (remoteId revision : Text)
    (outcome : Except Failure ArticleRecord) : ServiceCall :=
  .update remoteId revision (.obj s.document) s.bundles s.metadata outcome

end Shipment

/-- What an update can do: the calls, the change of the state, and the outcome.
-/
inductive Updating (id remoteId : Text) (s : Shipment) :
    List ServiceCall → (StateStore → StateStore) → Except Failure ArticleRecord → Prop
  /-- The article cannot be looked up. -/
  | unanswered (f : Failure) :
      Updating id remoteId s [.get remoteId (.error f)] (fun t => t) (.error f)
  /-- The article has no revision. -/
  | withoutRevision (r : ArticleRecord) (hr : r.revision = []) :
      Updating id remoteId s [.get remoteId (.ok r)] (fun t => t)
        (.error PushSetup.withoutRevision)
  /-- The article is replaced at the revision that it has, or not. -/
  | sent (r : ArticleRecord) (hr : r.revision ≠ []) (o : Except Failure ArticleRecord) :
      Updating id remoteId s
        [.get remoteId (.ok r), s.updating remoteId r.revision o]
        (fun t => t.setRevision id r.revision) o

/-- What a delivery can do, by what was known about the remote article: the
calls, the change of the state, and the outcome. -/
inductive Delivery (id : Text) (remote : RemoteState) (channel : Text) (s : Shipment) :
    List ServiceCall → (StateStore → StateStore) →
      Except Failure (ArticleRecord × PushStatus × Bool) → Prop
  /-- An item without a remote article is created, or not. -/
  | created (h : remote.isPublished = false) (o : Except Failure ArticleRecord) :
      Delivery id remote channel s [s.creating channel o] (fun t => t)
        (o.map fun r => (r, .created, false))
  /-- A remote article is updated, or not, and is not said to be gone. -/
  | updated (h : remote.isPublished = true)
      {calls : List ServiceCall} {change : StateStore → StateStore}
      {o : Except Failure ArticleRecord}
      (hu : Updating id remote.remoteId.shown s calls change o)
      (ho : ∀ f, o = .error f → f.missingArticle? = none) :
      Delivery id remote channel s calls change (o.map fun r => (r, .updated, false))
  /-- A remote article that is gone is forgotten, and created again or not. -/
  | recreated (h : remote.isPublished = true)
      {calls : List ServiceCall} {change : StateStore → StateStore} {f : Failure}
      (hu : Updating id remote.remoteId.shown s calls change (.error f))
      {e : RemoteError} (he : f.missingArticle? = some e)
      (o : Except Failure ArticleRecord) :
      Delivery id remote channel s (calls ++ [s.creating channel o])
        (fun t => (change t).clearRemoteState id)
        ((o.mapError (Failure.inRecovery e)).map fun r => (r, .created, true))

/-- The calls are made for an item, and the publish state is changed.  Apart from
that and from the service, nothing but what `World.SameRecords` leaves open
differs. -/
structure World.Serves (item : Text) (calls : List ServiceCall)
    (change : StateStore → StateStore) (w v : World (Noted σ)) : Prop where
  settings : v.settings = w.settings
  contents : v.contents = w.contents
  queued : v.queued = w.queued
  state : v.state = change w.state
  calls : v.service.calls = w.service.calls ++ calls.map fun c => (item, c)

namespace World.Serves

variable {item : Text} {u v w : World (Noted σ)}

theorem of_onState
    (item : Text) (change : StateStore → StateStore) (w : World (Noted σ)) :
    World.Serves item [] change w { w with state := change w.state } :=
  ⟨rfl, rfl, rfl, rfl, by simp⟩

theorem of_sameRecords (item : Text) (h : w.SameRecords v) :
    World.Serves item [] (fun t => t) w v :=
  ⟨h.settings, h.contents, h.queued, h.state, by simp [h.service]⟩

theorem of_call
    (item : Text) {α : Type} (note : Except Failure α → ServiceCall) (f : ApiCall σ α)
    (w : World (Noted σ)) :
    ∃ o v, Run.call (Noted.call item note f) w = (o, v) ∧
      World.Serves item [note o] (fun t => t) w v :=
  ⟨_, _, rfl, rfl, rfl, rfl, rfl, rfl⟩

theorem trans
    {calls calls' : List ServiceCall} {change change' : StateStore → StateStore}
    (huv : World.Serves item calls change u v) (hvw : World.Serves item calls' change' v w) :
    World.Serves item (calls ++ calls') (fun t => change' (change t)) u w where
  settings := hvw.settings.trans huv.settings
  contents := hvw.contents.trans huv.contents
  queued := hvw.queued.trans huv.queued
  state := by rw [hvw.state, huv.state]
  calls := by rw [hvw.calls, huv.calls, List.map_append, List.append_assoc]

theorem onState
    {calls : List ServiceCall} {change : StateStore → StateStore}
    (huv : World.Serves item calls change u v) (change' : StateStore → StateStore) :
    World.Serves item calls (fun t => change' (change t)) u
      { v with state := change' v.state } := by
  have h := huv.trans (of_onState item change' v)
  rwa [List.append_nil] at h

theorem settled
    {calls : List ServiceCall} {change : StateStore → StateStore}
    (huv : World.Serves item calls change u v) (id room : Text) :
    World.Serves item calls (fun t => (change t).clearMarkers id) u
      (PushSetup.settled id room v) := by
  have h := huv.onState fun t => t.clearMarkers id
  exact ⟨h.settings, h.contents, h.queued, h.state, h.calls⟩

end World.Serves

namespace PushSetup

variable {q : PushSetup (Noted σ)} {api : PublishingApi σ} {item : Text}

theorem create_serves
    (hq : q.api = api.noted item) (s : Shipment) (w : World (Noted σ)) :
    ∃ o v, q.create s w = (o, v) ∧
      World.Serves item [s.creating w.settings.apiChannel o] (fun t => t) w v := by
  rw [create, Run.bind_of_ok (Run.get_apply w), hq]
  exact World.Serves.of_call item _ _ w

theorem update_updating
    (hq : q.api = api.noted item) (id remoteId : Text) (s : Shipment)
    (w : World (Noted σ)) :
    ∃ calls change o v, q.update id remoteId s w = (o, v) ∧
      Updating id remoteId s calls change o ∧ World.Serves item calls change w v := by
  obtain ⟨current, v, hget, hv⟩ :
      ∃ current v, Run.call ((api.noted item).get remoteId) w = (current, v) ∧
        World.Serves item [.get remoteId current] (fun t => t) w v :=
    World.Serves.of_call item _ _ w
  rw [update, hq]
  cases current with
  | error f =>
      exact ⟨_, _, _, v, Run.bind_of_error hget _, .unanswered f, hv⟩
  | ok r =>
      rw [Run.bind_of_ok hget]
      by_cases hr : r.revision = []
      · rw [if_pos (List.isEmpty_iff.mpr hr)]
        exact ⟨_, _, _, v, rfl, .withoutRevision r hr, hv⟩
      · rw [if_neg (by rwa [List.isEmpty_iff]), Run.bind_of_ok (Run.onState_apply _ v)]
        have hnoted := hv.onState fun t => t.setRevision id r.revision
        obtain ⟨o, u, hupdate, hu⟩ := World.Serves.of_call item
          (s.updating remoteId r.revision) (api.update remoteId r.revision _ _ _)
          { v with state := v.state.setRevision id r.revision }
        exact ⟨_, _, o, u, hupdate, .sent r hr o, hnoted.trans hu⟩

/-- An item of which nothing is known is created. -/
theorem transmit_unknown
    (hq : q.api = api.noted item) (id : Text) (remote : RemoteState)
    (h : remote.isPublished = false) (s : Shipment) (w : World (Noted σ)) :
    ∃ o v, q.transmit id remote s w = (o.map fun r => (r, .created), v) ∧
      World.Serves item [s.creating w.settings.apiChannel o] (fun t => t) w v := by
  obtain ⟨o, v, hcreate, hv⟩ := create_serves hq s w
  refine ⟨o, v, ?_, hv⟩
  rw [transmit, if_neg (by rw [h]; exact Bool.false_ne_true)]
  cases o with
  | error f => exact Run.bind_of_error hcreate _
  | ok r => exact Run.bind_of_ok hcreate _

theorem transmit_published
    (hq : q.api = api.noted item) (id : Text) (remote : RemoteState)
    (h : remote.isPublished = true) (s : Shipment) (w : World (Noted σ)) :
    ∃ calls change o v,
      q.transmit id remote s w = (o.map fun r => (r, .updated), v) ∧
        Updating id remote.remoteId.shown s calls change o ∧
        World.Serves item calls change w v := by
  obtain ⟨calls, change, o, v, hupdate, hu, hv⟩ :=
    update_updating hq id remote.remoteId.shown s w
  refine ⟨calls, change, o, v, ?_, hu, hv⟩
  rw [transmit, if_pos h]
  cases o with
  | error f => exact Run.bind_of_error hupdate _
  | ok r => exact Run.bind_of_ok hupdate _

theorem recover_serves
    (hq : q.api = api.noted item) (id : Text) (e : RemoteError) (s : Shipment)
    (w : World (Noted σ)) :
    ∃ o v,
      q.recover id e s w =
        ((o.mapError (Failure.inRecovery e)).map fun r => (r, .created), v) ∧
        World.Serves item [s.creating w.settings.apiChannel o]
          (fun t => t.clearRemoteState id) w v := by
  have hcleared := World.Serves.of_onState item (fun t => t.clearRemoteState id) w
  obtain ⟨o, v, htransmit, hv⟩ := transmit_unknown hq id .unknown rfl s
    { w with state := w.state.clearRemoteState id }
  refine ⟨o, v, ?_, hcleared.trans hv⟩
  rw [recover, Run.bind_of_ok (Run.onState_apply _ w), Run.handle_apply, htransmit]
  cases o <;> rfl

/-- What a delivery does is one of the cases of `Delivery`, for the remote
article that was known before. -/
theorem deliver_delivery
    (hq : q.api = api.noted item) (id : Text) (s : Shipment) (w : World (Noted σ)) :
    ∃ calls change o v, q.deliver id s w = (o, v) ∧
      Delivery id (w.state.remoteState id) w.settings.apiChannel s calls change o ∧
      World.Serves item calls change w v := by
  rw [deliver, Run.bind_of_ok (Run.get_apply w), Run.handle_apply]
  by_cases h : (w.state.remoteState id).isPublished
  · obtain ⟨calls, change, o, v, htransmit, hu, hv⟩ := transmit_published hq id _ h s w
    cases o with
    | ok r =>
        rw [Run.bind_of_ok htransmit]
        exact ⟨calls, change, _, v, rfl, .updated h hu (by simp), hv⟩
    | error f =>
        rw [Run.bind_of_error htransmit]
        dsimp only
        cases he : f.missingArticle? with
        | none =>
            rw [h]
            exact ⟨calls, change, _, v, rfl, .updated h hu (by simp [he]), hv⟩
        | some e =>
            obtain ⟨o, u, hrecover, hu'⟩ := recover_serves hq id e s v
            rw [hv.settings] at hu'
            refine ⟨_, _, _, u, ?_, .recreated h hu he o, hv.trans hu'⟩
            rw [h]
            cases o with
            | error f => exact Run.bind_of_error hrecover _
            | ok r => exact Run.bind_of_ok hrecover _
  · rw [Bool.not_eq_true] at h
    obtain ⟨o, v, htransmit, hv⟩ := transmit_unknown hq id _ h s w
    refine ⟨_, _, _, v, ?_, .created h o, hv⟩
    cases o with
    | error f =>
        rw [Run.bind_of_error htransmit]
        dsimp only
        rw [h]
        rfl
    | ok r => rw [Run.bind_of_ok htransmit]; rfl

end PushSetup

end ArticleExport
