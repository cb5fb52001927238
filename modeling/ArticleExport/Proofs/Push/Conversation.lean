import ArticleExport.Proofs.Push.Performance

/-!
# The conversation of a push with the service

The calls of one push have one of six shapes.  There may be none.  An item
without a remote article is created.  An item that has one is looked up, and then
updated at the revision that the lookup told; where the lookup or the update says
that the article is gone, and only there, the article is created once more, and
nothing follows.  Whatever is sent is the shipment of the item.

What the result of the push says is read off the last call.
-/

namespace ArticleExport

variable {σ : Type}

namespace ServiceCall

/-- The error by which a call says that the article itself is gone. -/
def missing? : ServiceCall → Option RemoteError
  | create _ _ _ _ (.error f) | update _ _ _ _ _ (.error f) | get _ (.error f) =>
    f.missingArticle?
  | _ => none

/-- The article that a call has created. -/
def created? : ServiceCall → Option ArticleRecord
  | create _ _ _ _ (.ok r) => some r
  | _ => none

/-- The article that a call has updated. -/
def updated? : ServiceCall → Option ArticleRecord
  | update _ _ _ _ _ (.ok r) => some r
  | _ => none

/-- Whether a call asks for an article. -/
def isLookup : ServiceCall → Bool
  | get _ _ => true
  | _ => false

/-- The article that the last of some calls has created. -/
def lastCreated? (calls : List ServiceCall) : Option ArticleRecord :=
  calls.getLast?.bind created?

/-- The article that the last of some calls has updated. -/
def lastUpdated? (calls : List ServiceCall) : Option ArticleRecord :=
  calls.getLast?.bind updated?

/-- The last call was to create the article once more, after the one before it had
said by an error that it is gone, and failed. -/
def RecoveryFailed (calls : List ServiceCall) (e : RemoteError) (f : Failure) : Prop :=
  ∃ front call document channel bundles metadata,
    calls = front ++ [call, create document channel bundles metadata (.error f)] ∧
    call.missing? = some e

theorem not_recoveryFailed_nil {e : RemoteError} {f : Failure} : ¬RecoveryFailed [] e f := by
  rintro ⟨front, call, document, channel, bundles, metadata, hcalls, -⟩
  simp at hcalls

end ServiceCall

/-- The calls by which a shipment is brought to the service, by what was known
about the remote article. -/
inductive Conversation (remote : RemoteState) (channel : Text) (s : Shipment) :
    List ServiceCall → Prop
  /-- There was no remote article. -/
  | creating (h : remote.isPublished = false) (o : Except Failure ArticleRecord) :
      Conversation remote channel s [s.creating channel o]
  /-- The remote article is not told, or has no revision. -/
  | asking (h : remote.isPublished = true) (o : Except Failure ArticleRecord)
      (hpresent : (ServiceCall.get remote.remoteId.shown o).missing? = none)
      (hrevision : ∀ r, o = .ok r → r.revision = []) :
      Conversation remote channel s [.get remote.remoteId.shown o]
  /-- The remote article is updated at the revision that it has, or not. -/
  | updating (h : remote.isPublished = true) (r : ArticleRecord) (hr : r.revision ≠ [])
      (o : Except Failure ArticleRecord)
      (hpresent : (s.updating remote.remoteId.shown r.revision o).missing? = none) :
      Conversation remote channel s
        [.get remote.remoteId.shown (.ok r), s.updating remote.remoteId.shown r.revision o]
  /-- The remote article is gone when it is asked for. -/
  | recreating (h : remote.isPublished = true) (f : Failure) {e : RemoteError}
      (he : f.missingArticle? = some e) (o : Except Failure ArticleRecord) :
      Conversation remote channel s
        [.get remote.remoteId.shown (.error f), s.creating channel o]
  /-- The remote article is gone when it is to be updated. -/
  | updatingRecreating (h : remote.isPublished = true) (r : ArticleRecord)
      (hr : r.revision ≠ []) (f : Failure) {e : RemoteError}
      (he : f.missingArticle? = some e) (o : Except Failure ArticleRecord) :
      Conversation remote channel s
        [.get remote.remoteId.shown (.ok r),
          s.updating remote.remoteId.shown r.revision (.error f), s.creating channel o]

section Deliveries

variable {id remoteId channel : Text} {remote : RemoteState} {s : Shipment}
  {calls : List ServiceCall} {change : StateStore → StateStore}

theorem Delivery.conversation
    {o : Except Failure (ArticleRecord × PushStatus × Bool)}
    (h : Delivery id remote channel s calls change o) :
    Conversation remote channel s calls := by
  cases h with
  | created h o => exact .creating h o
  | @updated h _ _ o hu ho =>
      cases hu with
      | unanswered f => exact .asking h _ (ho f rfl) (fun r hr => nomatch hr)
      | withoutRevision r hr => exact .asking h _ rfl (fun r' hr' => Except.ok.inj hr' ▸ hr)
      | sent r hr =>
          refine .updating h r hr o ?_
          cases o with
          | error f => exact ho f rfl
          | ok r => rfl
  | @recreated h _ _ f hu e he o =>
      cases hu with
      | unanswered => exact .recreating h f he o
      | withoutRevision r hr => cases he
      | sent r hr => exact .updatingRecreating h r hr _ he o

/-- A delivery that fails has a last call that has neither created nor updated the
article. -/
theorem Delivery.last_of_error
    {o : Except Failure (ArticleRecord × PushStatus × Bool)}
    (h : Delivery id remote channel s calls change o) {f : Failure} (ho : o = .error f) :
    ServiceCall.lastCreated? calls = none ∧ ServiceCall.lastUpdated? calls = none := by
  cases h with
  | created _ o =>
      cases o with
      | error f => exact ⟨rfl, rfl⟩
      | ok r => cases ho
  | @updated _ _ _ o hu _ =>
      cases hu with
      | unanswered => exact ⟨rfl, rfl⟩
      | withoutRevision => exact ⟨rfl, rfl⟩
      | sent r _ =>
          cases o with
          | error f => exact ⟨rfl, rfl⟩
          | ok r => cases ho
  | recreated _ _ _ o =>
      cases o with
      | error f =>
          rw [ServiceCall.lastCreated?, ServiceCall.lastUpdated?, List.getLast?_concat]
          exact ⟨rfl, rfl⟩
      | ok r => cases ho

/-- What came of a delivery, as its last call tells it, and whether the article was
created after a lookup. -/
inductive SentBy (calls : List ServiceCall) (record : ArticleRecord) :
    PushStatus → Bool → Prop
  /-- The last call has created the article. -/
  | created (hcreated : ServiceCall.lastCreated? calls = some record)
      (hupdated : ServiceCall.lastUpdated? calls = none) {recreated : Bool}
      (hrecreated : recreated = true ↔ ∃ call ∈ calls, call.isLookup = true) :
      SentBy calls record .created recreated
  /-- The last call has updated the article. -/
  | updated (hcreated : ServiceCall.lastCreated? calls = none)
      (hupdated : ServiceCall.lastUpdated? calls = some record) :
      SentBy calls record .updated false

theorem Delivery.sentBy
    {o : Except Failure (ArticleRecord × PushStatus × Bool)}
    (h : Delivery id remote channel s calls change o)
    {record : ArticleRecord} {status : PushStatus} {recreated : Bool}
    (ho : o = .ok (record, status, recreated)) : SentBy calls record status recreated := by
  cases h with
  | created _ o =>
      cases o with
      | error f => cases ho
      | ok r =>
          cases ho
          refine .created rfl rfl ?_
          simp [Shipment.creating, ServiceCall.isLookup]
  | @updated _ _ _ o hu _ =>
      cases hu with
      | unanswered => cases ho
      | withoutRevision => cases ho
      | sent r _ =>
          cases o with
          | error f => cases ho
          | ok r => cases ho; exact .updated rfl rfl
  | recreated _ hu _ o =>
      cases o with
      | error f => cases ho
      | ok r =>
          cases ho
          refine .created ?_ ?_ ?_
          · rw [ServiceCall.lastCreated?, List.getLast?_concat]
            rfl
          · rw [ServiceCall.lastUpdated?, List.getLast?_concat]
            rfl
          · cases hu <;> simp [ServiceCall.isLookup]

/-- Where an update is refused since the article is gone, its last call says so. -/
theorem Updating.missing_of_last
    {f : Failure}
    (h : Updating id remoteId s calls change (.error f)) {e : RemoteError}
    (he : f.missingArticle? = some e) {call : ServiceCall}
    (hcall : calls.getLast? = some call) : call.missing? = some e := by
  cases h with
  | unanswered => cases hcall; exact he
  | withoutRevision => cases he
  | sent => cases hcall; exact he

/-- The failure of a recovery is what its call has failed with, and an error of the
service remembers the one that the recovery had started from. -/
theorem Delivery.unrecovered
    {o : Except Failure (ArticleRecord × PushStatus × Bool)}
    (h : Delivery id remote channel s calls change o)
    {e : RemoteError} {f : Failure} (hfailed : ServiceCall.RecoveryFailed calls e f) :
    o = .error (f.inRecovery e) := by
  -- the last call is a creation that has failed, and it is not the only call; so the
  -- delivery has created the article once more, and the call before tells why
  obtain ⟨front, call, document, channel', bundles, metadata, hcalls, hmissing⟩ := hfailed
  have hlast := congrArg List.getLast? hcalls
  have hbefore := congrArg (fun calls => calls.dropLast.getLast?) hcalls
  rw [List.append_cons] at hlast hbefore
  rw [List.getLast?_concat] at hlast
  simp only [List.dropLast_concat, List.getLast?_concat] at hbefore
  cases h with
  | created => cases hbefore
  | updated _ hu _ =>
      cases hu with
      | unanswered => cases hbefore
      | withoutRevision => cases hbefore
      | sent => cases hlast
  | recreated _ hu he o =>
      rw [List.getLast?_concat] at hlast
      rw [List.dropLast_concat] at hbefore
      cases hlast
      rw [hu.missing_of_last he hbefore] at hmissing
      cases hmissing
      rfl

end Deliveries

/-- What a push tells about its calls: whether the last one has created or updated
the article, whether that was after a lookup, and the errors by which a recovery
has failed. -/
structure Tells (id : Text) (calls : List ServiceCall) (o : Except Failure PushResult) :
    Prop where
  created : (∃ r, o = .ok r ∧ r.status = .created) ↔
    (ServiceCall.lastCreated? calls).isSome = true
  updated : (∃ r, o = .ok r ∧ r.status = .updated) ↔
    (ServiceCall.lastUpdated? calls).isSome = true
  recreated : (∃ r, o = .ok r ∧ r.recreated = true) ↔
    (ServiceCall.lastCreated? calls).isSome = true ∧ ∃ call ∈ calls, call.isLookup = true
  unrecovered : ∀ e e', ServiceCall.RecoveryFailed calls e (.error (.remote e')) →
    o = .ok (.failed id (.remote { e' with cause := some e }))

/-- A result that neither creates nor updates an article. -/
structure PushResult.IsUnsent (r : PushResult) : Prop where
  created : r.status ≠ .created
  updated : r.status ≠ .updated
  recreated : r.recreated = false

namespace PushSetup

/-- What is reported is unsent where nothing was sent. -/
theorem isUnsent_of_report
    {id : Text} {o : Except Failure PushResult} (ho : ∀ r, o = .ok r → r.IsUnsent)
    {r : PushResult} (hr : report id o = .ok r) : r.IsUnsent := by
  cases o with
  | ok r' => cases hr; exact ho r rfl
  | error f =>
      cases f with
      | error e => cases hr; exact ⟨nofun, nofun, rfl⟩
      | fault f => cases hr

end PushSetup

/-- Where nothing was sent, there is nothing to tell but that. -/
theorem Tells.of_isUnsent
    {id : Text} {calls : List ServiceCall} {o : Except Failure PushResult}
    (ho : ∀ r, o = .ok r → r.IsUnsent)
    (hcreated : ServiceCall.lastCreated? calls = none)
    (hupdated : ServiceCall.lastUpdated? calls = none)
    (hunrecovered : ∀ e e', ServiceCall.RecoveryFailed calls e (.error (.remote e')) →
      o = .ok (.failed id (.remote { e' with cause := some e }))) :
    Tells id calls o where
  created := by
    rw [hcreated]
    constructor
    · rintro ⟨r, hr, hstatus⟩
      exact absurd hstatus (ho r hr).created
    · nofun
  updated := by
    rw [hupdated]
    constructor
    · rintro ⟨r, hr, hstatus⟩
      exact absurd hstatus (ho r hr).updated
    · nofun
  recreated := by
    rw [hcreated]
    constructor
    · rintro ⟨r, hr, hrecreated⟩
      rw [(ho r hr).recreated] at hrecreated
      cases hrecreated
    · nofun
  unrecovered := hunrecovered

/-- Where the article was created or updated, the result tells which, and whether
that was after a lookup. -/
theorem Tells.of_sentBy
    {id : Text} {calls : List ServiceCall} {r : PushResult} {record : ArticleRecord}
    (hsent : SentBy calls record r.status r.recreated)
    (hrecovered : ∀ e f, ¬ServiceCall.RecoveryFailed calls e f) :
    Tells id calls (.ok r) := by
  have hunrecovered : ∀ e e', ServiceCall.RecoveryFailed calls e (.error (.remote e')) →
      (Except.ok r : Except Failure PushResult) =
        .ok (.failed id (.remote { e' with cause := some e })) :=
    fun e _ hfailed => (hrecovered e _ hfailed).elim
  generalize hstatus : r.status = status at hsent
  generalize hrecreated : r.recreated = recreated at hsent
  cases hsent with
  | created hcreated hupdated hlookup =>
      refine ⟨?_, ?_, ?_, hunrecovered⟩
      · simp [hstatus, hcreated]
      · simp [hstatus, hupdated]
      · simp [hcreated, hrecreated, hlookup]
  | updated hcreated hupdated =>
      refine ⟨?_, ?_, ?_, hunrecovered⟩
      · simp [hstatus, hcreated]
      · simp [hstatus, hupdated]
      · simp [hcreated, hrecreated]

namespace PushSetup

variable {p : PushSetup σ} {id : Text} {w : World σ}
  {calls : List ServiceCall} {change : StateStore → StateStore} {o : Except Failure PushResult}

theorem Tells.of_silent
    {o : Except Failure PushResult} (ho : ∀ r, o = .ok r → r.IsUnsent) :
    Tells id [] (report id o) :=
  .of_isUnsent (fun _ => isUnsent_of_report ho) rfl rfl fun _ _ hfailed =>
    (ServiceCall.not_recoveryFailed_nil hfailed).elim

theorem Sending.tells
    {c : Content} (h : p.Sending c w calls change o) :
    Tells id calls (report id o) := by
  cases h with
  | unprepared f => exact Tells.of_silent (by simp)
  | inSync => exact Tells.of_silent fun r hr => by cases hr; exact ⟨nofun, nofun, rfl⟩
  | @undelivered _ _ _ _ f hdelivery =>
      obtain ⟨hcreated, hupdated⟩ := hdelivery.last_of_error rfl
      have hunsent : ∀ r, (Except.error f : Except Failure PushResult) = .ok r →
          r.IsUnsent := by
        simp
      refine .of_isUnsent (fun _ => isUnsent_of_report hunsent) hcreated hupdated ?_
      intro e f hfailed
      cases hdelivery.unrecovered hfailed
      rfl
  | delivered _ hdelivery =>
      refine .of_sentBy (hdelivery.sentBy rfl) ?_
      intro e f hfailed
      cases hdelivery.unrecovered hfailed

theorem Course.tells
    (h : p.Course id w calls change o) :
    Tells id calls (report id o) := by
  cases h with
  | unaccepted => exact Tells.of_silent (by simp)
  | dismissed haccept =>
      refine Tells.of_silent fun r hr => ?_
      cases haccept
      cases hr
      exact ⟨nofun, nofun, rfl⟩
  | noRoom => exact Tells.of_silent (by simp)
  | ran _ _ hsending => exact hsending.tells

/-- What a push may do with the service: nothing, or a conversation by which the
shipment of its item is brought there. -/
def Converses (p : PushSetup σ) (id : Text) (w : World σ) (calls : List ServiceCall) : Prop :=
  calls = [] ∨ ∃ c s, w.content? id = some c ∧ p.shipmentOf w.settings c = .ok s ∧
    Conversation (w.state.remoteState c.label) w.settings.apiChannel s calls

theorem Course.converses
    (h : p.Course id w calls change o) :
    p.Converses id w calls := by
  cases h with
  | unaccepted => exact .inl rfl
  | dismissed => exact .inl rfl
  | noRoom => exact .inl rfl
  | ran haccept _ hsending =>
      have hc := haccept.content_eq
      cases hsending with
      | unprepared => exact .inl rfl
      | inSync => exact .inl rfl
      | undelivered hprepared hdelivery =>
          exact .inr ⟨_, _, hc, hprepared.shipment, hdelivery.conversation⟩
      | delivered hprepared hdelivery =>
          exact .inr ⟨_, _, hc, hprepared.shipment, hdelivery.conversation⟩

/-- The calls of a push are a conversation about the shipment of its item, and
the result tells of them. -/
theorem perform_converses
    (p : PushSetup σ) (id : Text) (scheduled : Bool) (w : World σ) :
    p.Converses id w (p.calls id scheduled w) ∧
      Tells id (p.calls id scheduled w) (p.perform id scheduled w).1 := by
  cases hqueueing : w.isQueueing scheduled with
  | true =>
      rw [calls_of_queueing hqueueing, perform_of_queueing hqueueing]
      obtain ⟨o, v, hqueue, hqueued⟩ := queue_queueing p id w
      rw [hqueue]
      refine ⟨.inl rfl, Tells.of_silent fun r hr => ?_⟩
      cases hqueued with
      | unhanded _ ho => rw [ho r hr]; exact ⟨nofun, nofun, rfl⟩
      | handed => cases hr; exact ⟨nofun, nofun, rfl⟩
      | refused => cases hr
  | false =>
      obtain ⟨change, o, hcourse, hresult, -⟩ := perform_course p id hqueueing
      rw [hresult]
      exact ⟨hcourse.converses, hcourse.tells⟩

end PushSetup

end ArticleExport
