import ArticleExport.Proofs.Push.Identity

/-!
# Sync soundness

The fingerprint that is stored for an item is that of what the service accepted
last for it, and the remote identifier is the one under which it was accepted.
This holds between any two pushes of a host, whatever the host changes in between,
and it is why an item is told to be in sync only when it is.

`ChecksumSound` is the invariant.  What one push does to it is `Soundly`: either
nothing was accepted, and the fingerprint is gone or as before, or one shipment was
accepted and noted.
-/

namespace ArticleExport

open StateStore

variable {σ : Type}

/-- What the service has accepted, and the article that it has become. -/
structure Acceptance where
  /-- The document. -/
  document : Json
  /-- The addresses of its bundles. -/
  bundles : List Text
  /-- Its metadata. -/
  metadata : Table Json
  /-- The article. -/
  record : ArticleRecord

/-- The fingerprint of what was accepted. -/
def Acceptance.fingerprint (a : Acceptance) : Except Fault Text :=
  ArticleExport.fingerprint a.document a.metadata a.bundles

/-- A shipment that was accepted as an article. -/
def Shipment.acceptedAs (s : Shipment) (record : ArticleRecord) : Acceptance :=
  ⟨.obj s.document, s.bundles, s.metadata, record⟩

namespace ServiceCall

/-- What a call has brought the service to accept. -/
def accepted? : ServiceCall → Option Acceptance
  | create document _ bundles metadata (.ok r) => some ⟨document, bundles, metadata, r⟩
  | update _ _ document bundles metadata (.ok r) => some ⟨document, bundles, metadata, r⟩
  | _ => none

/-- What the service has accepted last for an item. -/
def lastAccepted? (item : Text) (calls : List (Text × ServiceCall)) : Option Acceptance :=
  (calls.filterMap fun call => if call.1 = item then call.2.accepted? else none).getLast?

/-- What was accepted before counts where nothing has been accepted since. -/
theorem lastAccepted?_append
    (item : Text) (notes : List (Text × ServiceCall)) (calls : List ServiceCall) :
    lastAccepted? item (notes ++ calls.map fun call => (item, call)) =
      ((calls.filterMap accepted?).getLast?).or (lastAccepted? item notes) := by
  have hsame : (calls.map fun call => (item, call)).filterMap
      (fun call => if call.1 = item then call.2.accepted? else none) =
        calls.filterMap accepted? := by
    rw [List.filterMap_map]
    exact congrArg (List.filterMap · calls) (funext fun call => if_pos rfl)
  rw [lastAccepted?, List.filterMap_append, hsame, List.getLast?_append, lastAccepted?]

theorem lastAccepted?_append_of_ne
    {item other : Text} (h : other ≠ item) (notes : List (Text × ServiceCall))
    (calls : List ServiceCall) :
    lastAccepted? item (notes ++ calls.map fun call => (other, call)) =
      lastAccepted? item notes := by
  have hnone : (calls.map fun call => (other, call)).filterMap
      (fun call => if call.1 = item then call.2.accepted? else none) = [] := by
    rw [List.filterMap_map, List.filterMap_eq_nil_iff]
    intro call _
    exact if_neg h
  rw [lastAccepted?, List.filterMap_append, hnone, List.append_nil, lastAccepted?]

end ServiceCall

/-- Either no fingerprint is stored for an item, or it is that of what was accepted
last for it, and the stored remote identifier is that of the article. -/
def ChecksumSound (w : World (Noted σ)) (item : Text) : Prop :=
  w.state.get item StateStore.checksumKey = .null ∨
    ∃ a t, ServiceCall.lastAccepted? item w.service.calls = some a ∧
      a.fingerprint = .ok t ∧ w.state.get item StateStore.checksumKey = .str t ∧
      w.state.get item remoteIdKey = .str a.record.id

/-! ## What one push accepts -/

section Deliveries

variable {id remoteId channel : Text} {remote : RemoteState} {s : Shipment}
  {calls : List ServiceCall} {change : StateStore → StateStore}

theorem Updating.accepted
    {o : Except Failure ArticleRecord}
    (h : Updating id remoteId s calls change o) :
    calls.filterMap ServiceCall.accepted? =
      match o with
      | .ok r => [s.acceptedAs r]
      | .error _ => [] := by
  cases h with
  | unanswered => rfl
  | withoutRevision => rfl
  | sent r => cases o <;> rfl

/-- At most one call of a delivery is accepted, and that ends it. -/
theorem Delivery.accepted
    {o : Except Failure (ArticleRecord × PushStatus × Bool)}
    (h : Delivery id remote channel s calls change o) :
    calls.filterMap ServiceCall.accepted? =
      match o with
      | .ok (r, _, _) => [s.acceptedAs r]
      | .error _ => [] := by
  cases h with
  | created _ o => cases o <;> rfl
  | @updated _ _ _ o hu _ =>
      rw [hu.accepted]
      cases o <;> rfl
  | recreated _ hu _ o =>
      rw [List.filterMap_append, hu.accepted]
      cases o <;> rfl

end Deliveries

/-- What a push may do to the fingerprint of an item. -/
inductive Soundly (item : Text) (calls : List ServiceCall) (s t : StateStore) : Prop
  /-- Nothing was accepted, and the fingerprint is as before. -/
  | kept (hnone : calls.filterMap ServiceCall.accepted? = [])
      (hchecksum : t.get item StateStore.checksumKey = s.get item StateStore.checksumKey)
      (hremoteId : t.get item remoteIdKey = s.get item remoteIdKey)
  /-- The fingerprint is gone. -/
  | cleared (hchecksum : t.get item StateStore.checksumKey = .null)
  /-- One shipment was accepted and noted. -/
  | noted {a : Acceptance} {fresh : Text} (ha : calls.filterMap ServiceCall.accepted? = [a])
      (hfresh : a.fingerprint = .ok fresh)
      (hchecksum : t.get item StateStore.checksumKey = .str fresh)
      (hremoteId : t.get item remoteIdKey = .str a.record.id)

theorem Soundly.of_sameButMarkers
    (item : Text) {s t : StateStore} (h : s.SameButMarkers t) : Soundly item [] s t :=
  .kept rfl (h item _ checksumKey_not_mem_markerKeys) (h item _ remoteIdKey_not_mem_markerKeys)

theorem Soundly.congr
    {item : Text} {calls : List ServiceCall} {s s' t t' : StateStore}
    (h : Soundly item calls s t) (hs : s.SameButMarkers s') (ht : t.SameButMarkers t') :
    Soundly item calls s' t' := by
  have hchecksumKey := checksumKey_not_mem_markerKeys
  have hremoteIdKey := remoteIdKey_not_mem_markerKeys
  cases h with
  | kept hnone hchecksum hremoteId =>
      refine .kept hnone ?_ ?_
      · rw [ht item _ hchecksumKey, hs item _ hchecksumKey, hchecksum]
      · rw [ht item _ hremoteIdKey, hs item _ hremoteIdKey, hremoteId]
  | cleared hchecksum => exact .cleared ((ht item _ hchecksumKey).trans hchecksum)
  | noted ha hfresh hchecksum hremoteId =>
      exact .noted ha hfresh ((ht item _ hchecksumKey).trans hchecksum)
        ((ht item _ hremoteIdKey).trans hremoteId)

/-- A delivery that fails leaves the fingerprint as it was, or takes it away. -/
theorem Delivery.soundly_of_error
    {id channel : Text} {remote : RemoteState} {s : Shipment} {calls : List ServiceCall}
    {change : StateStore → StateStore} {f : Failure}
    (h : Delivery id remote channel s calls change (.error f)) (t : StateStore) :
    Soundly id calls t (change t) := by
  have hspares := h.sparesIdentity rfl t
  by_cases hfailed : ∃ e g, ServiceCall.RecoveryFailed calls e g
  · obtain ⟨e, g, hfailed⟩ := hfailed
    exact .cleared ((hspares.lost e g hfailed).2 _ checksumKey_mem_identityKeys)
  · have hkept := hspares.kept fun e g h => hfailed ⟨e, g, h⟩
    exact .kept h.accepted (hkept.same _ checksumKey_mem_identityKeys (by decide))
      (hkept.same _ remoteIdKey_mem_identityKeys (by decide))

namespace PushSetup

variable {p : PushSetup σ} {id : Text} {w : World σ}
  {calls : List ServiceCall} {change : StateStore → StateStore} {o : Except Failure PushResult}

theorem Sending.soundly
    {c : Content} (h : p.Sending c w calls change o) (t : StateStore) :
    Soundly c.label calls t (change t) := by
  cases h with
  | unprepared => exact .of_sameButMarkers _ (.refl t)
  | inSync => exact .of_sameButMarkers _ (.refl t)
  | undelivered _ hdelivery => exact hdelivery.soundly_of_error t
  | delivered hprepared hdelivery =>
      refine .noted hdelivery.accepted hprepared.fingerprint ?_ ?_
      · dsimp only
        rw [setChecksum, get_set_self]
      · dsimp only
        rw [setChecksum, get_set_of_key_ne _ (by decide), get_saveRecord_remoteIdKey]
        rfl

theorem Course.soundly
    (h : p.Course id w calls change o) (t : StateStore) :
    Soundly (w.labelOf id) calls t (change t) := by
  cases h with
  | unaccepted haccept => exact .of_sameButMarkers _ (haccept.sameButMarkers t)
  | dismissed haccept => exact .of_sameButMarkers _ (haccept.sameButMarkers t)
  | noRoom haccept => exact .of_sameButMarkers _ (haccept.sameButMarkers t)
  | ran haccept _ hsending =>
      rw [World.labelOf_eq haccept.content_eq]
      exact (hsending.soundly _).congr (haccept.sameButMarkers t).symm (.of_clearMarkers _ id)

end PushSetup

/-! ## What one push preserves -/

namespace ChecksumSound

variable {item : Text} {v w : World (Noted σ)}

theorem of_sameButMarkers
    (hv : ChecksumSound v item) (hstate : v.state.SameButMarkers w.state)
    (hcalls : w.service.calls = v.service.calls) : ChecksumSound w item := by
  have hchecksum := hstate item _ checksumKey_not_mem_markerKeys
  have hremoteId := hstate item _ remoteIdKey_not_mem_markerKeys
  rw [ChecksumSound, hchecksum, hremoteId, hcalls]
  exact hv

theorem of_soundly
    (hv : ChecksumSound v item) {calls : List ServiceCall}
    (hcalls : w.service.calls = v.service.calls ++ calls.map fun call => (item, call))
    (h : Soundly item calls v.state w.state) : ChecksumSound w item := by
  rw [ChecksumSound, hcalls, ServiceCall.lastAccepted?_append]
  cases h with
  | kept hnone hchecksum hremoteId =>
      rw [hnone, hchecksum, hremoteId]
      exact hv
  | cleared hchecksum => exact .inl hchecksum
  | noted ha hfresh hchecksum hremoteId =>
      rw [ha]
      exact .inr ⟨_, _, rfl, hfresh, hchecksum, hremoteId⟩

end ChecksumSound

/-- A push keeps the fingerprints of all items sound, if its scheduler does. -/
theorem perform_checksumSound
    {q : PushSetup (Noted σ)} {api : PublishingApi σ} {id : Text} {w : World (Noted σ)}
    (hapi : q.api = api.noted (w.labelOf id))
    (hscheduler : ∀ schedule, q.scheduler = some schedule → ∀ item v,
      (∀ other, ChecksumSound v other) → ∀ other, ChecksumSound (schedule item v).2 other)
    (scheduled : Bool) (hw : ∀ item, ChecksumSound w item) (item : Text) :
    ChecksumSound (q.perform id scheduled w).2 item := by
  cases hqueueing : w.isQueueing scheduled with
  | true =>
      obtain ⟨o, v, hqueue, hqueued⟩ := PushSetup.queue_queueing q id w
      have hhanded : ∀ other, ChecksumSound (w.handed id) other := fun other =>
        (hw other).of_sameButMarkers (.of_markPending w.state id) rfl
      rw [PushSetup.perform_of_queueing hqueueing, hqueue]
      cases hqueued with
      | unhanded => exact hw item
      | handed hschedule _ _ hv =>
          have hsound := hscheduler _ hschedule id _ hhanded item
          rwa [hv] at hsound
      | refused hschedule _ _ hv =>
          have hsound := hscheduler _ hschedule id _ hhanded item
          rw [hv] at hsound
          exact hsound.of_sameButMarkers (.of_clearPending _ id) rfl
  | false =>
      obtain ⟨calls, change, o, v, hpush, hcourse, hv⟩ := PushSetup.push_course hapi id w
      rw [PushSetup.perform_of_pushing hqueueing, hpush]
      by_cases hitem : item = w.labelOf id
      · subst hitem
        refine (hw _).of_soundly hv.calls ?_
        rw [hv.state]
        exact hcourse.soundly w.state
      · have hcalls := ServiceCall.lastAccepted?_append_of_ne (Ne.symm hitem) w.service.calls calls
        have hread : ∀ key ∉ markerKeys,
            v.state.get item (.text key) = w.state.get item key := by
          intro key hkey
          rw [hv.state]
          exact hcourse.get_of_ne w.state hitem hkey
        rw [ChecksumSound, hread _ checksumKey_not_mem_markerKeys,
          hread _ remoteIdKey_not_mem_markerKeys, hv.calls, hcalls]
        exact hw item

/-! ## Runs of a host -/

/-- What a host may do, one step after the other.  It changes whatever it likes
except what is kept about remote articles, and it performs pushes, each with a setup
and settings of its own.  A scheduler may do the same when it is handed an item. -/
inductive HostRun : World (Noted σ) → World (Noted σ) → Prop
  /-- Nothing is done. -/
  | refl (w : World (Noted σ)) : HostRun w w
  /-- Contents, settings, the time, the service and the markers may change. -/
  | edit {u v w : World (Noted σ)} (h : HostRun u v)
      (hstate : v.state.SameButMarkers w.state) (hcalls : w.service.calls = v.service.calls) :
      HostRun u w
  /-- A push is performed. -/
  | perform {u v : World (Noted σ)} (h : HostRun u v) {q : PushSetup (Noted σ)}
      {api : PublishingApi σ} {id : Text} (hapi : q.api = api.noted (v.labelOf id))
      (hscheduler : ∀ schedule, q.scheduler = some schedule →
        ∀ item w, HostRun w (schedule item w).2)
      (scheduled : Bool) : HostRun u (q.perform id scheduled v).2

/-- Whatever a host does keeps the fingerprints sound. -/
theorem HostRun.checksumSound
    {u v : World (Noted σ)} (h : HostRun u v) (hu : ∀ item, ChecksumSound u item) :
    ∀ item, ChecksumSound v item := by
  -- on the steps of the host; what a scheduler does is a run of its own, of which the
  -- invariant is known by induction too
  induction h with
  | refl => exact hu
  | edit _ hstate hcalls ih =>
      intro item
      exact (ih hu item).of_sameButMarkers hstate hcalls
  | perform _ hapi _ scheduled ih ihscheduler =>
      exact perform_checksumSound hapi ihscheduler scheduled (ih hu)

/-! ## Answers -/

theorem eq_some_of_isInSync
    {stored : Option Text} {fresh : Text} (h : isInSync stored fresh = true) :
    stored = some fresh := by
  cases stored with
  | none => cases h
  | some t =>
      rw [isInSync, Bool.and_eq_true, beq_iff_eq] at h
      rw [h.2]

namespace PushWording

theorem inSync_ne_vetoed (id : Text) : inSync id ≠ vetoed id := by
  rw [inSync, vetoed, List.append_assoc, List.append_assoc]
  exact fun h => absurd (List.append_cancel_left (List.append_cancel_left h)) (by decide)

theorem inSync_ne_skipTerm (id : Text) : inSync id ≠ skipTerm id := by
  rw [inSync, skipTerm, List.append_assoc, List.append_assoc]
  exact fun h => absurd (List.append_cancel_left (List.append_cancel_left h)) (by decide)

theorem inSync_ne_pending (id id' : Text) : inSync id ≠ pending id' := by
  intro h
  have hhead : (inSync id).head? = (pending id').head? := by rw [h]
  exact absurd hhead (by simp [inSync, pending, Text.ofString])

end PushWording

/-- Whether a result says that an item is in sync. -/
def PushResult.SaysInSync (r : PushResult) (label : Text) : Prop :=
  r.status = .skipped ∧ PushWording.inSync label ∈ r.messages

namespace PushSetup

variable {p : PushSetup σ} {id : Text} {w : World σ}
  {calls : List ServiceCall} {change : StateStore → StateStore} {o : Except Failure PushResult}

theorem verdict_reason
    {settings : Settings} {c : Content} {reason : Text}
    (h : p.verdict settings c = .ok (some reason)) :
    reason = PushWording.vetoed c.label ∨ reason = PushWording.skipTerm c.label := by
  rw [verdict] at h
  split at h
  · cases h
  · cases h; exact .inl rfl
  · split at h
    · cases h
    · cases h; exact .inr rfl
    · cases h

/-- A push says that its item is in sync only where the gate has said so of what was
prepared. -/
theorem Course.prepares_of_saysInSync
    (h : p.Course id w calls change o) {r : PushResult}
    (hr : report id o = .ok r) (hanswer : r.SaysInSync (w.labelOf id)) :
    ∃ c prepared, w.content? id = some c ∧ p.Prepares w c prepared ∧
      prepared.check.inSync p.override = true ∧ r.checksum = prepared.check.fingerprint := by
  obtain ⟨hstatus, hmessage⟩ := hanswer
  have hfailed : ∀ f : Failure, o ≠ .error f := by
    rintro (e | f) rfl
    · cases hr; cases hstatus
    · cases hr
  cases h with
  | unaccepted => exact (hfailed _ rfl).elim
  | dismissed haccept =>
      cases haccept with
      | skipped _ _ hc hverdict =>
          cases hr
          rw [World.labelOf_eq hc] at hmessage
          have hreason := List.mem_singleton.mp hmessage
          rcases verdict_reason hverdict with rfl | rfl
          · exact absurd hreason (PushWording.inSync_ne_vetoed _)
          · exact absurd hreason (PushWording.inSync_ne_skipTerm _)
  | noRoom => exact (hfailed _ rfl).elim
  | ran haccept _ hsending =>
      cases hsending with
      | unprepared => exact (hfailed _ rfl).elim
      | inSync hprepared hsync =>
          cases hr
          exact ⟨_, _, haccept.content_eq, hprepared, hsync, rfl⟩
      | undelivered => exact (hfailed _ rfl).elim
      | delivered _ hdelivery =>
          cases hr
          cases hdelivery.sentBy rfl with
          | created => cases hstatus
          | updated => cases hstatus

theorem prepares_of_saysInSync
    {scheduled : Bool} {r : PushResult} (hr : (p.perform id scheduled w).1 = .ok r)
    (hanswer : r.SaysInSync (w.labelOf id)) :
    ∃ c prepared, w.content? id = some c ∧ p.Prepares w c prepared ∧
      prepared.check.inSync p.override = true ∧ r.checksum = prepared.check.fingerprint := by
  cases hqueueing : w.isQueueing scheduled with
  | true =>
      obtain ⟨o, v, hqueue, hqueued⟩ := queue_queueing p id w
      obtain ⟨hstatus, hmessage⟩ := hanswer
      rw [perform_of_queueing hqueueing, hqueue] at hr
      cases hqueued with
      | @unhanded o _ ho =>
          rcases o with (e | f) | r'
          · cases hr; cases hstatus
          · cases hr
          · cases hr
            rw [ho r rfl] at hmessage
            exact absurd (List.mem_singleton.mp hmessage) (PushWording.inSync_ne_pending _ _)
      | handed => cases hr; cases hstatus
      | refused => cases hr; cases hstatus
  | false =>
      obtain ⟨change, o, hcourse, hresult, -⟩ := perform_course p id hqueueing
      rw [hresult] at hr
      exact hcourse.prepares_of_saysInSync hr hanswer

/-- What was accepted last for an item has a fingerprint, which what is to be sent
for the item has as well. -/
def MatchesLastAccepted (q : PushSetup (Noted σ)) (w : World (Noted σ)) (id fresh : Text) :
    Prop :=
  ∃ c s a, w.content? id = some c ∧ q.shipmentOf w.settings c = .ok s ∧
    ArticleExport.fingerprint (.obj s.document) s.metadata s.bundles = .ok fresh ∧
    ServiceCall.lastAccepted? c.label w.service.calls = some a ∧ a.fingerprint = .ok fresh

/-- Without an override the gate compares with what was accepted last, where the
stored fingerprint is sound. -/
theorem matchesLastAccepted_of_saysInSync
    {q : PushSetup (Noted σ)} {w : World (Noted σ)} {scheduled : Bool} {r : PushResult}
    (hsound : ∀ item, ChecksumSound w item) (hoverride : q.override = none)
    (hr : (q.perform id scheduled w).1 = .ok r) (hanswer : r.SaysInSync (w.labelOf id)) :
    q.MatchesLastAccepted w id r.checksum := by
  obtain ⟨c, prepared, hc, hprepared, hsync, hchecksum⟩ := prepares_of_saysInSync hr hanswer
  rw [hoverride] at hsync
  have hstored := hprepared.stored.symm.trans (eq_some_of_isInSync hsync)
  rw [hchecksum]
  rcases hsound c.label with hnull | ⟨a, t, ha, hfresh, ht, -⟩
  · rw [checksum, hnull] at hstored
    cases hstored
  · rw [checksum, ht] at hstored
    cases hstored
    exact ⟨c, _, a, hc, hprepared.shipment, hprepared.fingerprint, ha, hfresh⟩

end PushSetup

/-- Between any two steps of a host the fingerprint that is stored for an item is
that of what was accepted last for it; and a push without an override says that its
item is in sync only where what is to be sent has that fingerprint too. -/
theorem sync_sound
    {settings : Settings} {contents : ContentStore} {service : σ} {w : World (Noted σ)}
    (h : HostRun ((World.fresh settings contents service).noting []) w) :
    (∀ item, ChecksumSound w item) ∧
      ∀ (q : PushSetup (Noted σ)) (id : Text) (scheduled : Bool) (r : PushResult),
        q.override = none → (q.perform id scheduled w).1 = .ok r →
          r.SaysInSync (w.labelOf id) → q.MatchesLastAccepted w id r.checksum := by
  have hsound : ∀ item, ChecksumSound w item := by
    apply h.checksumSound
    intro item
    exact .inl rfl
  constructor
  · exact hsound
  · intro q id scheduled r hoverride hr hanswer
    exact PushSetup.matchesLastAccepted_of_saysInSync hsound hoverride hr hanswer

/-- The setup of a rehearsal for an item of a world. -/
def rehearsing (w : World (Noted Rehearsal)) (item : Text) : PushSetup (Noted Rehearsal) :=
  .ofApi (Rehearsal.api.noted (w.labelOf item))

/-- The scheduler that performs a push at once. -/
def pushingAtOnce : Scheduler (Noted Rehearsal) := fun item w =>
  (none, ((rehearsing w item).perform item true w).2)

/-- A world with one item, of which nothing is known. -/
def rehearsal : World (Noted Rehearsal) :=
  (World.fresh (.ofAccount true) (.ofList [.blank "1"]) Rehearsal.initial).noting []

/-- The fingerprint of an item is sound when a scheduler has performed at once what it
was handed. -/
theorem sync_sound_of_pushingAtOnce :
    ChecksumSound
      ({ rehearsing rehearsal "1" with scheduler := some pushingAtOnce }.perform "1" false
        rehearsal).2 "1" := by
  have hscheduler : ∀ item w, HostRun w (pushingAtOnce item w).2 := fun item w =>
    .perform (.refl w) (rfl : (rehearsing w item).api = Rehearsal.api.noted _)
      (fun schedule hschedule => by cases hschedule) true
  refine (sync_sound (.perform (.refl rehearsal) rfl ?_ false)).1 "1"
  intro schedule hschedule
  cases hschedule
  exact hscheduler

end ArticleExport
