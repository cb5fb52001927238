import ArticleExport.Proofs.Push.Delivery
import ArticleExport.Proofs.Push.Preparation
import ArticleExport.Proofs.State.Frames

/-!
# The course of a push

Everything that a push can come to, said once.  A push may end before it has
marked its item, where the store cannot be used or it cannot be told whether the
item is skipped; it may find that there is nothing to push, and take the markers
away; it may fail to open a workspace, with its item marked; or it runs, and takes
the markers away when it has ended.  A push that runs fails while the shipment is
prepared, finds that the item is in sync, or delivers the shipment.

`PushSetup.push_course` is the inversion lemma of a push, as
`PushSetup.deliver_delivery` is that of a delivery.
-/

namespace ArticleExport

variable {σ : Type}

/-- The content item of an identifier. -/
def World.content? (w : World σ) (id : Text) : Option Content :=
  KeyTable.get? (.text id) w.contents

/-- The identifier under which the state of a push is kept: the one that its
content item carries. -/
def World.labelOf (w : World σ) (id : Text) : Text :=
  ((w.content? id).map Content.label).getD id

theorem World.labelOf_eq
    {w : World σ} {id : Text} {c : Content} (hc : w.content? id = some c) :
    w.labelOf id = c.label := by
  rw [labelOf, hc]
  rfl

namespace PushSetup

/-- What a push can do once its workspace is open: the calls, the change of the
state, and the outcome. -/
inductive Sending (q : PushSetup σ) (c : Content) (w : World σ) :
    List ServiceCall → (StateStore → StateStore) → Except Failure PushResult → Prop
  /-- Nothing is sent, since it cannot be prepared or compared. -/
  | unprepared (f : Failure) : Sending q c w [] (fun t => t) (.error f)
  /-- Nothing is sent, since the item is in sync. -/
  | inSync {prepared : Prepared} (hprepared : q.Prepares w c prepared)
      (hsync : prepared.check.inSync q.override = true) :
      Sending q c w [] (fun t => t) (.ok (skippedInSync c.label prepared))
  /-- What is prepared is not delivered. -/
  | undelivered {prepared : Prepared} (hprepared : q.Prepares w c prepared)
      {calls : List ServiceCall} {change : StateStore → StateStore} {f : Failure}
      (hdelivery : Delivery c.label (w.state.remoteState c.label) w.settings.apiChannel
        prepared.shipment calls change (.error f)) :
      Sending q c w calls change (.error f)
  /-- What is prepared is delivered, and noted. -/
  | delivered {prepared : Prepared} (hprepared : q.Prepares w c prepared)
      {calls : List ServiceCall} {change : StateStore → StateStore}
      {record : ArticleRecord} {status : PushStatus} {recreated : Bool}
      (hdelivery : Delivery c.label (w.state.remoteState c.label) w.settings.apiChannel
        prepared.shipment calls change (.ok (record, status, recreated))) :
      Sending q c w calls
        (fun t => ((change t).saveRecord c.label record).setChecksum c.label
          prepared.check.fingerprint)
        (.ok (PushSetup.delivered c.label prepared record status recreated))

/-- What accepting an item for a push can do: the change of the state, and the
item or what ends the push. -/
inductive Accepting (q : PushSetup σ) (id : Text) (w : World σ) :
    (StateStore → StateStore) → Except Failure (Except PushResult Content) → Prop
  /-- The store cannot be used for the item. -/
  | unreachable {f : Fault} (hreach : w.state.nameFault? [id] = some f) :
      Accepting q id w (fun t => t) (.error (.fault f))
  /-- It cannot be told whether the item is skipped. -/
  | undecided {c : Content} {f : Failure}
      (hconfigured : w.settings.isApiConfigured = true) (hc : w.content? id = some c)
      (hverdict : q.verdict w.settings c = .error f) :
      Accepting q id w (fun t => t) (.error f)
  /-- There is no account, or no item. -/
  | refused (e : ExportError) (hreach : w.state.nameFault? [id] = none)
      (hrefused : w.settings.isApiConfigured = false ∨ w.content? id = none) :
      Accepting q id w (fun t => t.clearMarkers id) (.error (.error e))
  /-- The item is skipped. -/
  | skipped {c : Content} {reason : Text} (hreach : w.state.nameFault? [id] = none)
      (hconfigured : w.settings.isApiConfigured = true) (hc : w.content? id = some c)
      (hverdict : q.verdict w.settings c = .ok (some reason)) :
      Accepting q id w (fun t => t.clearMarkers id)
        (.ok (.error (.brief id .skipped [reason])))
  /-- The push of the item is under way. -/
  | accepted {c : Content} (hreach : w.state.nameFault? [id] = none)
      (hconfigured : w.settings.isApiConfigured = true) (hc : w.content? id = some c)
      (hverdict : q.verdict w.settings c = .ok none) :
      Accepting q id w (fun t => t.markInProgress id) (.ok (.ok c))

/-- What a push can do: the calls, the change of the state, and the outcome. -/
inductive Course (q : PushSetup σ) (id : Text) (w : World σ) :
    List ServiceCall → (StateStore → StateStore) → Except Failure PushResult → Prop
  /-- The item is not accepted. -/
  | unaccepted {change : StateStore → StateStore} {f : Failure}
      (haccept : Accepting q id w change (.error f)) :
      Course q id w [] change (.error f)
  /-- There is nothing to push. -/
  | dismissed {change : StateStore → StateStore} {r : PushResult}
      (haccept : Accepting q id w change (.ok (.error r))) :
      Course q id w [] change (.ok r)
  /-- No workspace can be opened. -/
  | noRoom {change : StateStore → StateStore} {c : Content} {f : Fault}
      (haccept : Accepting q id w change (.ok (.ok c)))
      (hroom : Workspace.create [] id = .error f) :
      Course q id w [] change (.error (.fault f))
  /-- The push runs. -/
  | ran {change change' : StateStore → StateStore} {c : Content} {space : Workspace}
      {calls : List ServiceCall} {o : Except Failure PushResult}
      (haccept : Accepting q id w change (.ok (.ok c)))
      (hroom : Workspace.create [] id = .ok space)
      (hsending : Sending q c w calls change' o) :
      Course q id w calls (fun t => (change' (change t)).clearMarkers id) o

/-- Markers make no difference to what is sent. -/
theorem Sending.congr
    {q : PushSetup σ} {c : Content} {v w : World σ} {calls : List ServiceCall}
    {change : StateStore → StateStore} {o : Except Failure PushResult}
    (hsending : Sending q c v calls change o)
    (hsettings : v.settings = w.settings) (hstate : w.state.SameButMarkers v.state) :
    Sending q c w calls change o := by
  have hchecksum : v.state.checksum c.label = w.state.checksum c.label :=
    hstate c.label _ StateStore.checksumKey_not_mem_markerKeys
  have hprepares : ∀ prepared, q.Prepares v c prepared → q.Prepares w c prepared :=
    fun prepared h => ⟨hsettings ▸ h.shipment, hchecksum ▸ h.stored, h.fingerprint⟩
  cases hsending with
  | unprepared f => exact .unprepared f
  | inSync hprepared hsync => exact .inSync (hprepares _ hprepared) hsync
  | undelivered hprepared hdelivery =>
      rw [hsettings, hstate.remoteState_eq] at hdelivery
      exact .undelivered (hprepares _ hprepared) hdelivery
  | delivered hprepared hdelivery =>
      rw [hsettings, hstate.remoteState_eq] at hdelivery
      exact .delivered (hprepares _ hprepared) hdelivery

variable {q : PushSetup (Noted σ)} {api : PublishingApi σ} {item : Text}

theorem exportAndSend_sending
    (hq : q.api = api.noted item) (room : Text) (c : Content) (w : World (Noted σ)) :
    ∃ calls change o v, q.exportAndSend room c w = (o, v) ∧
      q.Sending c w calls change o ∧ World.Serves item calls change w v := by
  rw [exportAndSend]
  rcases hprepare : q.prepare room c w with ⟨f | prepared, v⟩
  · have hquiet := (q.quiet_prepare room c).of_eq hprepare
    exact ⟨_, _, _, v, Run.bind_of_error hprepare _, .unprepared f, .of_sameRecords item hquiet⟩
  · have hquiet := (q.quiet_prepare room c).of_eq hprepare
    have hprepared := q.prepare_prepares hprepare
    have hv := World.Serves.of_sameRecords item hquiet
    rw [Run.bind_of_ok hprepare]
    cases hoverride : q.overrideFailure? prepared.check with
    | some f => exact ⟨_, _, _, v, Run.bind_of_error rfl _, .unprepared f, hv⟩
    | none =>
        rw [Run.bind_of_ok (Run.failing_apply none v)]
        by_cases hsync : prepared.check.inSync q.override = true
        · rw [if_pos hsync]
          exact ⟨_, _, _, v, rfl, .inSync hprepared hsync, hv⟩
        · rw [if_neg hsync, send]
          obtain ⟨calls, change, o, u, hdeliver, hdelivery, hu⟩ :=
            deliver_delivery hq c.label prepared.shipment v
          rw [hquiet.state, hquiet.settings] at hdelivery
          cases o with
          | error f =>
              rw [Run.bind_of_error hdeliver]
              exact ⟨_, _, _, u, rfl, .undelivered hprepared hdelivery, hv.trans hu⟩
          | ok sent =>
              obtain ⟨record, status, recreated⟩ := sent
              rw [Run.bind_of_ok hdeliver]
              have hnoted := (hv.trans hu).onState fun t =>
                (t.saveRecord c.label record).setChecksum c.label prepared.check.fingerprint
              exact ⟨_, _, _, _, rfl, .delivered hprepared hdelivery, hnoted⟩

/-- The markers are taken away where the store can be used for the item; otherwise
the run ends there. -/
theorem unmark_apply (id : Text) (w : World σ) :
    (unmark id : Run σ Unit) w =
      match w.state.nameFault? [id] with
      | some f => (.error (.fault f), w)
      | none => (.ok ⟨⟩, { w with state := w.state.clearMarkers id }) := by
  rw [unmark, Run.bind_apply, Run.reach_apply]
  cases w.state.nameFault? [id] <;> rfl

theorem openWorkspace_apply (id : Text) (w : World σ) :
    (openWorkspace id : Run σ Text) w =
      match Workspace.create [] id with
      | .error f => (.error (.fault f), w)
      | .ok space =>
        (.ok (Workspace.freshName id (Table.keys w.temporary)),
          { w with temporary :=
              Table.set (Workspace.freshName id (Table.keys w.temporary)) space w.temporary }) := by
  rw [openWorkspace, Run.bind_apply, Run.ofFault_apply]
  cases Workspace.create [] id <;> rfl

theorem start_accepting
    (id : Text) {c : Content} {w : World (Noted σ)}
    (hconfigured : w.settings.isApiConfigured = true) (hc : w.content? id = some c) :
    ∃ change o v, q.start id c w = (o, v) ∧ Accepting q id w change o ∧
      World.Serves item [] change w v := by
  have hverdict := q.skipReason_verdict c w
  rw [start]
  rcases hreason : q.skipReason c w with ⟨f | reason, v⟩
  · have hv := World.Serves.of_sameRecords item ((q.quiet_skipReason c).of_eq hreason)
    rw [hreason] at hverdict
    rw [Run.bind_of_error hreason]
    exact ⟨_, _, v, rfl, .undecided hconfigured hc hverdict.symm, hv⟩
  · have hquiet := (q.quiet_skipReason c).of_eq hreason
    have hv := World.Serves.of_sameRecords item hquiet
    have hnames : v.state.nameFault? [id] = w.state.nameFault? [id] := by rw [hquiet.state]
    rw [hreason] at hverdict
    rw [Run.bind_of_ok hreason]
    cases reason with
    | some reason =>
        dsimp only
        rw [Run.bind_apply, unmark_apply, hnames]
        cases hreach : w.state.nameFault? [id] with
        | some f => exact ⟨_, _, v, rfl, .unreachable hreach, hv⟩
        | none =>
            exact ⟨_, _, _, rfl, .skipped hreach hconfigured hc hverdict.symm, hv.onState _⟩
    | none =>
        dsimp only
        rw [Run.bind_apply, Run.reach_apply, hnames]
        cases hreach : w.state.nameFault? [id] with
        | some f => exact ⟨_, _, v, rfl, .unreachable hreach, hv⟩
        | none =>
            exact ⟨_, _, _, rfl, .accepted hreach hconfigured hc hverdict.symm, hv.onState _⟩

theorem accept_accepting (id : Text) (w : World (Noted σ)) :
    ∃ change o v, q.accept id w = (o, v) ∧ Accepting q id w change o ∧
      World.Serves item [] change w v := by
  have hw := World.Serves.of_sameRecords item (World.SameRecords.refl w)
  have hunmarked : ∀ e : ExportError,
      w.settings.isApiConfigured = false ∨ w.content? id = none →
      ∃ change o v,
        (unmark id >>= fun _ => throw (.error e) :
          Run (Noted σ) (Except PushResult Content)) w = (o, v) ∧
        Accepting q id w change o ∧ World.Serves item [] change w v := by
    intro e hrefused
    rw [Run.bind_apply, unmark_apply]
    cases hreach : w.state.nameFault? [id] with
    | some f => exact ⟨_, _, w, rfl, .unreachable hreach, hw⟩
    | none => exact ⟨_, _, _, rfl, .refused e hreach hrefused, hw.onState _⟩
  rw [accept, Run.bind_of_ok (Run.get_apply w)]
  by_cases hconfigured : w.settings.isApiConfigured = true
  · have hfound : KeyTable.get? (.text id) w.contents = w.content? id := rfl
    rw [if_pos hconfigured, hfound]
    cases hc : w.content? id with
    | some c => exact start_accepting id hconfigured hc
    | none => exact hunmarked _ (.inr hc)
  · rw [if_neg hconfigured]
    exact hunmarked _ (.inl (by simpa using hconfigured))

theorem Accepting.content_eq
    {q : PushSetup σ} {id : Text} {w : World σ} {change : StateStore → StateStore}
    {c : Content} (haccept : Accepting q id w change (.ok (.ok c))) :
    w.content? id = some c := by
  cases haccept with
  | accepted _ _ hc _ => exact hc

/-- Accepting an item sets or takes away markers, and changes nothing else. -/
theorem Accepting.sameButMarkers
    {q : PushSetup σ} {id : Text} {w : World σ} {change : StateStore → StateStore}
    {o : Except Failure (Except PushResult Content)}
    (haccept : Accepting q id w change o) (t : StateStore) : t.SameButMarkers (change t) := by
  cases haccept with
  | unreachable => exact .refl t
  | undecided => exact .refl t
  | refused => exact .of_clearMarkers t id
  | skipped => exact .of_clearMarkers t id
  | accepted => exact .of_markInProgress t id

/-- What a push does is one of the cases of `Course`. -/
theorem push_course
    (hq : q.api = api.noted item) (id : Text) (w : World (Noted σ)) :
    ∃ calls change o v, q.push id w = (o, v) ∧ Course q id w calls change o ∧
      World.Serves item calls change w v := by
  obtain ⟨change, o, v, haccept, haccepting, hv⟩ := accept_accepting (q := q) id w
  rw [push]
  cases o with
  | error f => exact ⟨_, _, _, v, Run.bind_of_error haccept _, .unaccepted haccepting, hv⟩
  | ok accepted =>
      rw [Run.bind_of_ok haccept]
      cases accepted with
      | error r => exact ⟨_, _, _, v, rfl, .dismissed haccepting, hv⟩
      | ok c =>
          dsimp only
          rw [Run.bind_apply, openWorkspace_apply]
          cases hroom : Workspace.create [] id with
          | error f => exact ⟨_, _, _, v, rfl, .noRoom haccepting hroom, hv⟩
          | ok space =>
              dsimp only
              rw [Run.andFinally_apply]
              generalize Workspace.freshName id (Table.keys v.temporary) = room
              obtain ⟨calls, change', o, u, hexport, hsending, hu⟩ :=
                exportAndSend_sending hq room c
                  { v with temporary := Table.set room space v.temporary }
              rw [hexport]
              have hopened : v.SameRecords
                  { v with temporary := Table.set room space v.temporary } :=
                ⟨rfl, rfl, rfl, rfl, rfl⟩
              -- accepting has marked the item, and what is sent does not depend on that
              have hstate : w.state.SameButMarkers v.state :=
                hv.state ▸ haccepting.sameButMarkers w.state
              have hran := hsending.congr hv.settings hstate
              have hserved := (hv.trans (.of_sameRecords item hopened)).trans hu
              exact ⟨_, _, _, _, rfl, .ran haccepting hroom hran, hserved.settled id room⟩

end PushSetup

end ArticleExport
