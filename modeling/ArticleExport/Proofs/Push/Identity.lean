import ArticleExport.Proofs.Push.Conversation
import ArticleExport.Publish.Rehearsal

/-!
# The remote identity over a push

What is known about the remote article of an item is its identity: the keys under
which it was noted, and the fingerprint of what was last accepted.  A push that
neither creates nor updates the article either keeps the identity, where a lookup
may have refreshed the revision, or has lost it; and it has lost it just where the
article was gone and could not be created once more.

The state that a push is compared with is the one that it starts from.  A push
that is handed to a scheduler is compared with the state that the scheduler has
left: what a scheduler does with the store is up to the host.
-/

namespace ArticleExport

open StateStore

variable {σ : Type}

/-- Nothing that is known about the remote article of an item differs but its
revision, and that only where a lookup has told it. -/
structure KeepsIdentity (id : Text) (calls : List ServiceCall) (s t : StateStore) : Prop where
  same : ∀ key ∈ identityKeys, key ≠ revisionKey → t.get id key = s.get id key
  revision : t.get id revisionKey = s.get id revisionKey ∨
    ∃ remoteId r, ServiceCall.get remoteId (.ok r) ∈ calls ∧
      t.get id revisionKey = .str r.revision

/-- Nothing is known about the remote article of an item. -/
def LacksIdentity (id : Text) (s : StateStore) : Prop :=
  ∀ key ∈ identityKeys, s.get id key = .null

theorem KeepsIdentity.refl (id : Text) (calls : List ServiceCall) (s : StateStore) :
    KeepsIdentity id calls s s := by
  constructor
  · intro key _ _
    rfl
  · exact .inl rfl

/-- Markers are no part of an identity. -/
theorem KeepsIdentity.congr
    {id : Text} {calls : List ServiceCall} {s s' t t' : StateStore}
    (h : KeepsIdentity id calls s t) (hs : s.SameButMarkers s') (ht : t.SameButMarkers t') :
    KeepsIdentity id calls s' t' where
  same key hkey hne := by
    have hmarker := not_mem_markerKeys_of_mem_identityKeys hkey
    rw [ht id key hmarker, hs id key hmarker, h.same key hkey hne]
  revision := by
    have hmarker : revisionKey ∉ markerKeys := by decide
    rw [ht id _ hmarker, hs id _ hmarker]
    exact h.revision

theorem LacksIdentity.congr
    {id : Text} {s t : StateStore} (h : LacksIdentity id s) (hst : s.SameButMarkers t) :
    LacksIdentity id t := by
  intro key hkey
  rw [hst id key (not_mem_markerKeys_of_mem_identityKeys hkey), h key hkey]

/-! ## What a delivery changes -/

section Deliveries

variable {id remoteId channel : Text} {remote : RemoteState} {s : Shipment}
  {calls : List ServiceCall} {change : StateStore → StateStore}

theorem Updating.touchesOnly
    {o : Except Failure ArticleRecord}
    (h : Updating id remoteId s calls change o) {items : List Text} (hid : id ∈ items)
    (t : StateStore) : TouchesOnly items t (change t) := by
  cases h with
  | unanswered => exact .refl items t
  | withoutRevision => exact .refl items t
  | sent r => exact .setRevision hid t r.revision

theorem Delivery.touchesOnly
    {o : Except Failure (ArticleRecord × PushStatus × Bool)}
    (h : Delivery id remote channel s calls change o) {items : List Text} (hid : id ∈ items)
    (t : StateStore) : TouchesOnly items t (change t) := by
  cases h with
  | created => exact .refl items t
  | updated _ hu _ => exact hu.touchesOnly hid t
  | recreated _ hu _ _ => exact (hu.touchesOnly hid t).trans (.clearRemoteState hid _)

/-- An update keeps the identity of the article until it is noted anew. -/
theorem Updating.keepsIdentity
    {o : Except Failure ArticleRecord}
    (h : Updating id remoteId s calls change o) (t : StateStore) :
    KeepsIdentity id calls t (change t) := by
  cases h with
  | unanswered => exact .refl id _ t
  | withoutRevision => exact .refl id _ t
  | sent r =>
      constructor
      · intro key _ hne
        exact get_set_of_key_ne t hne.symm id r.revision id
      · refine .inr ⟨remoteId, r, List.mem_cons_self, ?_⟩
        exact get_set_self t id revisionKey r.revision

theorem lacksIdentity_clearRemoteState (id : Text) (s : StateStore) :
    LacksIdentity id (s.clearRemoteState id) := by
  intro key hkey
  rw [get_clearRemoteState, if_pos ⟨rfl, hkey⟩]

/-! ## Failed recoveries -/

theorem Updating.not_recoveryFailed
    {o : Except Failure ArticleRecord}
    (h : Updating id remoteId s calls change o) (e : RemoteError) (f : Failure) :
    ¬ServiceCall.RecoveryFailed calls e f := by
  rintro ⟨front, call, document, channel, bundles, metadata, hcalls, -⟩
  have hlast := congrArg List.getLast? hcalls
  rw [List.append_cons, List.getLast?_concat] at hlast
  cases h with
  | unanswered => cases hlast
  | withoutRevision => cases hlast
  | sent => cases hlast

theorem Updating.recoveryFailed
    {f : Failure}
    (h : Updating id remoteId s calls change (.error f)) {e : RemoteError}
    (he : f.missingArticle? = some e) (channel : Text) (g : Failure) :
    ServiceCall.RecoveryFailed (calls ++ [s.creating channel (.error g)]) e g := by
  cases h with
  | unanswered => exact ⟨[], _, _, _, _, _, rfl, he⟩
  | withoutRevision => cases he
  | sent => exact ⟨[_], _, _, _, _, _, rfl, he⟩

/-- What becomes of the identity where a push neither creates nor updates the
article: it is lost just where a recovery has failed. -/
structure SparesIdentity (id : Text) (remote : RemoteState) (calls : List ServiceCall)
    (s t : StateStore) : Prop where
  lost : ∀ e f, ServiceCall.RecoveryFailed calls e f →
    remote.isPublished = true ∧ LacksIdentity id t
  kept : (∀ e f, ¬ServiceCall.RecoveryFailed calls e f) → KeepsIdentity id calls s t

theorem Delivery.sparesIdentity
    {o : Except Failure (ArticleRecord × PushStatus × Bool)}
    (h : Delivery id remote channel s calls change o) {f : Failure} (ho : o = .error f)
    (t : StateStore) : SparesIdentity id remote calls t (change t) := by
  cases h with
  | created _ o =>
      constructor
      · -- the creation is the only call
        rintro e f ⟨front, call, document, channel', bundles, metadata, hcalls, -⟩
        simpa using congrArg List.length hcalls
      · intro _
        exact .refl id _ t
  | updated _ hu _ =>
      constructor
      · intro e f hfailed
        exact absurd hfailed (hu.not_recoveryFailed e f)
      · intro _
        exact hu.keepsIdentity t
  | recreated hpublished hu he o =>
      cases o with
      | ok r => cases ho
      | error g =>
          have hfailed := hu.recoveryFailed he channel g
          constructor
          · intro _ _ _
            exact ⟨hpublished, lacksIdentity_clearRemoteState id _⟩
          · intro hrecovered
            exact absurd hfailed (hrecovered _ _)

end Deliveries

theorem SparesIdentity.of_silent
    (id : Text) (remote : RemoteState) {s t : StateStore} (hst : s.SameButMarkers t) :
    SparesIdentity id remote [] s t := by
  constructor
  · intro e f hfailed
    exact absurd hfailed ServiceCall.not_recoveryFailed_nil
  · intro _
    exact (KeepsIdentity.refl id [] s).congr (.refl s) hst

theorem SparesIdentity.congr
    {id : Text} {remote : RemoteState} {calls : List ServiceCall} {s s' t t' : StateStore}
    (h : SparesIdentity id remote calls s t) (hs : s.SameButMarkers s') (ht : t.SameButMarkers t') :
    SparesIdentity id remote calls s' t' := by
  constructor
  · intro e f hfailed
    obtain ⟨hpublished, hlacks⟩ := h.lost e f hfailed
    exact ⟨hpublished, hlacks.congr ht⟩
  · intro hrecovered
    exact (h.kept hrecovered).congr hs ht

namespace PushSetup

variable {p : PushSetup σ} {id : Text} {w : World σ}
  {calls : List ServiceCall} {change : StateStore → StateStore} {o : Except Failure PushResult}

/-- Whether an article was created or updated. -/
def IsSent (o : Except Failure PushResult) : Prop :=
  ∃ r, o = .ok r ∧ (r.status = .created ∨ r.status = .updated)

theorem IsSent.report {o : Except Failure PushResult} (ho : IsSent o) : IsSent (report id o) := by
  obtain ⟨r, rfl, hr⟩ := ho
  exact ⟨r, rfl, hr⟩

theorem Sending.touchesOnly
    {c : Content} (h : p.Sending c w calls change o)
    {items : List Text} (hc : c.label ∈ items) (t : StateStore) :
    TouchesOnly items t (change t) := by
  cases h with
  | unprepared => exact .refl items t
  | inSync => exact .refl items t
  | undelivered _ hdelivery => exact hdelivery.touchesOnly hc t
  | delivered _ hdelivery =>
      exact ((hdelivery.touchesOnly hc t).trans (.saveRecord hc _ _)).trans (.setChecksum hc _ _)

theorem Sending.sparesIdentity
    {c : Content} (h : p.Sending c w calls change o) (ho : ¬IsSent o)
    (t : StateStore) :
    SparesIdentity c.label (w.state.remoteState c.label) calls t (change t) := by
  cases h with
  | unprepared => exact .of_silent _ _ (.refl t)
  | inSync => exact .of_silent _ _ (.refl t)
  | undelivered _ hdelivery => exact hdelivery.sparesIdentity rfl t
  | delivered _ hdelivery =>
      cases hdelivery.sentBy rfl with
      | created => exact (ho ⟨_, rfl, .inl rfl⟩).elim
      | updated => exact (ho ⟨_, rfl, .inr rfl⟩).elim

theorem Accepting.touchesOnly
    {change : StateStore → StateStore} {o : Except Failure (Except PushResult Content)}
    (h : p.Accepting id w change o) {items : List Text} (hid : id ∈ items) (t : StateStore) :
    TouchesOnly items t (change t) := by
  cases h with
  | unreachable => exact .refl items t
  | undecided => exact .refl items t
  | refused => exact .clearMarkers hid t
  | skipped => exact .clearMarkers hid t
  | accepted => exact .markInProgress hid t

theorem Course.touchesOnly
    (h : p.Course id w calls change o) (t : StateStore) :
    TouchesOnly [id, w.labelOf id] t (change t) := by
  have hid : id ∈ [id, w.labelOf id] := List.mem_cons_self
  cases h with
  | unaccepted haccept => exact haccept.touchesOnly hid t
  | dismissed haccept => exact haccept.touchesOnly hid t
  | noRoom haccept => exact haccept.touchesOnly hid t
  | @ran change change' c _ _ _ haccept _ hsending =>
      have hc : c.label ∈ [id, w.labelOf id] := by
        rw [World.labelOf_eq haccept.content_eq]
        exact List.mem_cons_of_mem _ List.mem_cons_self
      exact ((haccept.touchesOnly hid t).trans (hsending.touchesOnly hc _)).trans
        (.clearMarkers hid _)

/-- A push changes nothing but markers of any other item than that of its label. -/
theorem Course.get_of_ne
    (h : p.Course id w calls change o) (t : StateStore)
    {item : Text} (hitem : item ≠ w.labelOf id) {key : Text} (hkey : key ∉ markerKeys) :
    (change t).get item key = t.get item key := by
  cases h with
  | unaccepted haccept => exact haccept.sameButMarkers t item key hkey
  | dismissed haccept => exact haccept.sameButMarkers t item key hkey
  | noRoom haccept => exact haccept.sameButMarkers t item key hkey
  | @ran change change' c _ _ _ haccept _ hsending =>
      rw [World.labelOf_eq haccept.content_eq] at hitem
      have hsent := hsending.touchesOnly (List.mem_singleton_self c.label) (change t)
      calc
        ((change' (change t)).clearMarkers id).get item key =
            (change' (change t)).get item key := SameButMarkers.of_clearMarkers _ id item key hkey
        _ = (change t).get item key := hsent.get item (by simpa using hitem) key
        _ = t.get item key := haccept.sameButMarkers t item key hkey

theorem Course.sparesIdentity
    (h : p.Course id w calls change o) (ho : ¬IsSent o)
    (t : StateStore) :
    SparesIdentity (w.labelOf id) (w.state.remoteState (w.labelOf id)) calls t (change t) := by
  cases h with
  | unaccepted haccept => exact .of_silent _ _ (haccept.sameButMarkers t)
  | dismissed haccept => exact .of_silent _ _ (haccept.sameButMarkers t)
  | noRoom haccept => exact .of_silent _ _ (haccept.sameButMarkers t)
  | ran haccept _ hsending =>
      rw [World.labelOf_eq haccept.content_eq]
      exact (hsending.sparesIdentity ho _).congr (haccept.sameButMarkers t).symm
        (.of_clearMarkers _ id)

/-! ## Pushes -/

/-- The state that a push starts from: where its item is handed to the scheduler,
the one that the scheduler leaves. -/
def stateFrom (p : PushSetup σ) (id : Text) (scheduled : Bool) (w : World σ) : StateStore :=
  match p.scheduler with
  | none => w.state
  | some schedule =>
    if w.isQueueing scheduled = true ∧ w.state.nameFault? [id] = none ∧
        w.state.isPending id = false then
      (schedule id (w.handed id)).2.state
    else w.state

/-- What a push does to a state: at most the identifier and the label of its item
are touched, nothing but markers under any other name than the label, and where the
article is neither created nor updated its identity is spared. -/
structure Spares (p : PushSetup σ) (id : Text) (scheduled : Bool) (w : World σ)
    (s : StateStore) : Prop where
  others : TouchesOnly [id, w.labelOf id] s (p.perform id scheduled w).2.state
  markers : ∀ item, item ≠ w.labelOf id → ∀ key : Text, key ∉ markerKeys →
    (p.perform id scheduled w).2.state.get item key = s.get item key
  identity : IsSent (p.perform id scheduled w).1 ∨
    SparesIdentity (w.labelOf id) (w.state.remoteState (w.labelOf id))
      (p.calls id scheduled w) s (p.perform id scheduled w).2.state

variable {scheduled : Bool}

theorem stateFrom_of_unhanded
    (h : w.isQueueing scheduled = false ∨ p.scheduler = none ∨
      w.state.nameFault? [id] ≠ none ∨ w.state.isPending id = true) :
    p.stateFrom id scheduled w = w.state := by
  rw [stateFrom]
  cases hschedule : p.scheduler with
  | none => rfl
  | some schedule =>
      dsimp only
      rw [if_neg]
      rintro ⟨hqueueing, hreach, hpending⟩
      simp [hqueueing, hreach, hpending, hschedule] at h

theorem stateFrom_of_handed
    (hqueueing : w.isQueueing scheduled = true)
    {schedule : Scheduler σ} (hschedule : p.scheduler = some schedule)
    (hreach : w.state.nameFault? [id] = none) (hpending : w.state.isPending id = false) :
    p.stateFrom id scheduled w = (schedule id (w.handed id)).2.state := by
  rw [stateFrom, hschedule]
  exact if_pos ⟨hqueueing, hreach, hpending⟩

theorem spares_of_pushing
    (p : PushSetup σ) (id : Text) (h : w.isQueueing scheduled = false) :
    p.Spares id scheduled w w.state := by
  obtain ⟨change, o, hcourse, hresult, hstate⟩ := perform_course p id h
  constructor
  · rw [hstate]
    exact hcourse.touchesOnly w.state
  · intro item hitem key hkey
    rw [hstate]
    exact hcourse.get_of_ne w.state hitem hkey
  · rw [hstate, hresult]
    by_cases ho : IsSent o
    · exact .inl ho.report
    · exact .inr (hcourse.sparesIdentity ho w.state)

theorem spares_of_queueing
    (p : PushSetup σ) (id : Text) (h : w.isQueueing scheduled = true) :
    p.Spares id scheduled w (p.stateFrom id scheduled w) := by
  obtain ⟨o, v, hqueue, hqueued⟩ := queue_queueing p id w
  have hid : id ∈ [id, w.labelOf id] := List.mem_cons_self
  suffices hleft : TouchesOnly [id, w.labelOf id] (p.stateFrom id scheduled w) v.state ∧
      (p.stateFrom id scheduled w).SameButMarkers v.state by
    obtain ⟨hothers, hmarkers⟩ := hleft
    constructor
    · rw [perform_of_queueing h, hqueue]
      exact hothers
    · intro item _ key hkey
      rw [perform_of_queueing h, hqueue]
      exact hmarkers item key hkey
    · rw [perform_of_queueing h, hqueue, calls_of_queueing h]
      exact .inr (.of_silent _ _ hmarkers)
  cases hqueued with
  | unhanded hunhanded =>
      rw [stateFrom_of_unhanded (.inr hunhanded)]
      exact ⟨.refl _ _, .refl _⟩
  | handed hschedule hreach hpending hv =>
      rw [stateFrom_of_handed h hschedule hreach hpending, hv]
      exact ⟨.refl _ _, .refl _⟩
  | refused hschedule hreach hpending hv =>
      rw [stateFrom_of_handed h hschedule hreach hpending, hv]
      exact ⟨.clearPending hid _, .of_clearPending _ id⟩

/-- A push spares the state that it starts from, and where the scheduler leaves
the store alone that of the world. -/
theorem perform_spares
    (p : PushSetup σ) (id : Text) (scheduled : Bool) (w : World σ) :
    p.Spares id scheduled w (p.stateFrom id scheduled w) ∧
      ((∀ schedule, p.scheduler = some schedule → ∀ v, (schedule id v).2.state = v.state) →
        p.Spares id scheduled w w.state) := by
  have hspares : p.Spares id scheduled w (p.stateFrom id scheduled w) := by
    cases h : w.isQueueing scheduled with
    | true => exact spares_of_queueing p id h
    | false =>
        rw [stateFrom_of_unhanded (.inl h)]
        exact spares_of_pushing p id h
  refine ⟨hspares, fun hscheduler => ?_⟩
  -- the scheduler is handed the state of the world with a marker set
  have hmarked : TouchesOnly [id, w.labelOf id] w.state (p.stateFrom id scheduled w) ∧
      w.state.SameButMarkers (p.stateFrom id scheduled w) := by
    rw [stateFrom]
    cases hschedule : p.scheduler with
    | none => exact ⟨.refl _ _, .refl _⟩
    | some schedule =>
        dsimp only
        split
        · rw [hscheduler schedule hschedule]
          exact ⟨.markPending List.mem_cons_self _, .of_markPending _ id⟩
        · exact ⟨.refl _ _, .refl _⟩
  obtain ⟨htouches, hsame⟩ := hmarked
  constructor
  · exact htouches.trans hspares.others
  · intro item hitem key hkey
    rw [hspares.markers item hitem key hkey, hsame item key hkey]
  · rcases hspares.identity with hsent | hidentity
    · exact .inl hsent
    · exact .inr (hidentity.congr hsame.symm (.refl _))

/-- A push whose item a scheduler merely takes spares the state of the world. -/
theorem spares_of_taking_scheduler :
    ({ ofApi Rehearsal.api with scheduler := some fun _ w => (none, w) } :
        PushSetup Rehearsal).Spares "1" false (.fresh (.ofAccount true) [] .initial)
      (World.fresh (.ofAccount true) [] Rehearsal.initial).state :=
  (perform_spares _ "1" false _).2 fun schedule hschedule v => by
    cases hschedule
    rfl

/-- A scheduler that has noted an article by the time it returns. -/
def eagerScheduler : Scheduler Rehearsal := fun id w =>
  (none, { w with state := w.state.saveRecord id Rehearsal.initial.nextRecord })

/-- A scheduler that pushes an item at once changes its identity, though the push
that handed it over is only queued. -/
theorem not_spares_of_eager_scheduler :
    ¬∀ (p : PushSetup Rehearsal) (id : Text) (scheduled : Bool) (w : World Rehearsal),
      p.Spares id scheduled w w.state := by
  intro h
  let p : PushSetup Rehearsal := { ofApi Rehearsal.api with scheduler := some eagerScheduler }
  let w : World Rehearsal := .fresh (.ofAccount true) [] .initial
  have hqueueing : w.isQueueing false = true := rfl
  have hqueued : (p.perform "1" false w).1 = .ok (.brief "1" .queued []) := rfl
  have hnoted : (p.perform "1" false w).2.state.get (w.labelOf "1") remoteIdKey =
      .str "article-1" := by decide
  rcases (h p "1" false w).identity with ⟨r, hr, hstatus⟩ | hidentity
  · rw [hqueued] at hr
    cases hr
    rcases hstatus with hstatus | hstatus <;> cases hstatus
  · rw [calls_of_queueing hqueueing] at hidentity
    have hkept := hidentity.kept fun e f => ServiceCall.not_recoveryFailed_nil
    have hsame := hkept.same _ remoteIdKey_mem_identityKeys (by decide)
    rw [hnoted] at hsame
    exact absurd hsame (by decide)

end PushSetup

end ArticleExport
