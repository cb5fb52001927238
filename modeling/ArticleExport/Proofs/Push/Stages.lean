import ArticleExport.Proofs.Push.Course
import Mathlib.Logic.Function.Iterate
import Mathlib.Logic.Relation

/-!
# The stages of a push

A push talks to the host and to the service several times, and between any two of these
times something else can happen.  `PushSetup.step` takes a push apart at these places: a
stage says how far the push has come and what it has at hand, and one step goes on from the
world as it is by then.

Taken together, the steps are the push (`PushSetup.leads_push`): where nothing happens in
between, they lead from a push that has been called to its outcome, and leave the same world.
-/

namespace ArticleExport

variable {σ : Type}

/-- What a push has at hand while it talks to the service. -/
structure Errand where
  /-- The identifier under which the state of the push is kept. -/
  label : Text
  /-- The name of the workspace. -/
  room : Text
  /-- What has been prepared. -/
  prepared : Prepared

/-- How far a push has come. -/
inductive PushStage where
  /-- It has been called, and has read nothing yet. -/
  | called
  /-- It has read its content item and marked it as under way. -/
  | accepted (c : Content)
  /-- It has opened a workspace. -/
  | opened (c : Content) (room : Text)
  /-- It has prepared what is to be sent. -/
  | prepared (e : Errand)
  /-- It is about to ask for the article that it replaces. -/
  | asking (e : Errand) (remoteId : Text)
  /-- It is about to replace a revision of an article. -/
  | updating (e : Errand) (remoteId revision : Text)
  /-- It is about to forget an article that is gone. -/
  | forgetting (e : Errand) (cause : RemoteError)
  /-- It is about to create an article, which may have been gone for a cause. -/
  | creating (e : Errand) (cause : Option RemoteError)
  /-- It has the answer of the service, and has noted nothing of it. -/
  | answered (e : Errand) (record : ArticleRecord) (status : PushStatus) (recreated : Bool)
  /-- It has an outcome, and its markers and its workspace are still there. -/
  | closing (room : Text) (outcome : Except Failure PushResult)
  /-- It has ended. -/
  | ended (outcome : Except Failure PushResult)

namespace Errand

/-- Where a push stands when a call of the service has failed: an article that is gone is
forgotten, and any other failure ends the push. -/
def turnedDown (e : Errand) (f : Failure) : PushStage :=
  match f.missingArticle? with
  | some cause => .forgetting e cause
  | none => .closing e.room (.error f)

/-- The failure of a creation, which may have been part of a recovery. -/
def blamed (cause : Option RemoteError) (f : Failure) : Failure :=
  cause.elim f fun cause => f.inRecovery cause

/-- Where a push stands when it has tried to replace an article. -/
def updated (e : Errand) : Except Failure ArticleRecord → PushStage
  | .ok record => .answered e record .updated false
  | .error f => e.turnedDown f

/-- Where a push stands when its delivery is done. -/
def after (e : Errand) : Except Failure (ArticleRecord × PushStatus × Bool) → PushStage
  | .ok (record, status, recreated) => .answered e record status recreated
  | .error f => .closing e.room (.error f)

end Errand

namespace PushSetup

/-- One step of a push, from the world as it is. -/
def step (p : PushSetup σ) (id : Text) : PushStage × World σ → PushStage × World σ
  | (.called, w) =>
    match p.accept id w with
    | (.ok (.ok c), w) => (.accepted c, w)
    | (.ok (.error result), w) => (.ended (.ok result), w)
    | (.error f, w) => (.ended (.error f), w)
  | (.accepted c, w) =>
    match openWorkspace id w with
    | (.ok room, w) => (.opened c room, w)
    | (.error f, w) => (.ended (.error f), w)
  | (.opened c room, w) =>
    match p.prepare room c w with
    | (.ok prepared, w) =>
      match p.overrideFailure? prepared.check with
      | some f => (.closing room (.error f), w)
      | none =>
        if prepared.check.inSync p.override then
          (.closing room (.ok (skippedInSync c.label prepared)), w)
        else (.prepared ⟨c.label, room, prepared⟩, w)
    | (.error f, w) => (.closing room (.error f), w)
  | (.prepared e, w) =>
    let remote := w.state.remoteState e.label
    if remote.isPublished then (.asking e remote.remoteId.shown, w) else (.creating e none, w)
  | (.asking e remoteId, w) =>
    match Run.call (p.api.get remoteId) w with
    | (.ok current, w) =>
      if current.revision.isEmpty then (.closing e.room (.error withoutRevision), w)
      else (.updating e remoteId current.revision,
        { w with state := w.state.setRevision e.label current.revision })
    | (.error f, w) => (e.turnedDown f, w)
  | (.updating e remoteId revision, w) =>
    match Run.call (p.api.update remoteId revision (.obj e.prepared.shipment.document)
        e.prepared.shipment.bundles e.prepared.shipment.metadata) w with
    | (outcome, w) => (e.updated outcome, w)
  | (.forgetting e cause, w) =>
    (.creating e (some cause), { w with state := w.state.clearRemoteState e.label })
  | (.creating e cause, w) =>
    match p.create e.prepared.shipment w with
    | (.ok record, w) => (.answered e record .created cause.isSome, w)
    | (.error f, w) => (.closing e.room (.error (Errand.blamed cause f)), w)
  | (.answered e record status recreated, w) =>
    (.closing e.room (.ok (delivered e.label e.prepared record status recreated)),
      { w with state :=
          (w.state.saveRecord e.label record).setChecksum e.label e.prepared.check.fingerprint })
  | (.closing room outcome, w) => (.ended outcome, settled id room w)
  | (.ended outcome, w) => (.ended outcome, w)

/-- Some number of steps leads from one place to another. -/
def Leads (p : PushSetup σ) (id : Text) : PushStage × World σ → PushStage × World σ → Prop :=
  Relation.ReflTransGen fun x y => p.step id x = y

variable {p : PushSetup σ} {id : Text} {w v : World σ} {x y z : PushStage × World σ}

theorem Leads.refl (p : PushSetup σ) (id : Text) (x : PushStage × World σ) : p.Leads id x x :=
  Relation.ReflTransGen.refl

theorem Leads.step (hxy : p.step id x = y) (hyz : p.Leads id y z) : p.Leads id x z :=
  Relation.ReflTransGen.head hxy hyz

theorem Leads.one (hxy : p.step id x = y) : p.Leads id x y :=
  Relation.ReflTransGen.single hxy

theorem Leads.trans (hxy : p.Leads id x y) (hyz : p.Leads id y z) : p.Leads id x z :=
  Relation.ReflTransGen.trans hxy hyz

theorem step_ended (outcome : Except Failure PushResult) :
    p.step id (.ended outcome, w) = (.ended outcome, w) :=
  rfl

/-- A push that is led to its end is led there from every place that it comes to. -/
theorem Leads.iterate {outcome : Except Failure PushResult}
    (h : p.Leads id x (.ended outcome, w)) (n : ℕ) :
    p.Leads id ((p.step id)^[n] x) (.ended outcome, w) := by
  induction n generalizing x with
  | zero => exact h
  | succ n ih =>
      apply ih
      rcases Relation.ReflTransGen.cases_head h with rfl | ⟨y, hstep, hrest⟩
      · exact .refl p id _
      · rwa [hstep]

/-! ## A delivery -/

section Delivery

variable {e : Errand} {o : Except Failure ArticleRecord}

theorem step_creating {cause : Option RemoteError}
    (h : p.create e.prepared.shipment w = (o, v)) :
    p.step id (.creating e cause, w) =
      (e.after ((o.mapError (Errand.blamed cause)).map fun r => (r, .created, cause.isSome)),
        v) := by
  rw [step, h]
  cases o <;> rfl

theorem transmit_of_not_isPublished {remote : RemoteState} (h : remote.isPublished = false)
    (label : Text) {s : Shipment} (hcreate : p.create s w = (o, v)) :
    p.transmit label remote s w = (o.map fun r => (r, .created), v) := by
  rw [transmit, if_neg (by rw [h]; exact Bool.false_ne_true)]
  cases o with
  | error f => exact Run.bind_of_error hcreate _
  | ok r => exact Run.bind_of_ok hcreate _

theorem transmit_of_isPublished {remote : RemoteState} (h : remote.isPublished = true)
    {label : Text} {s : Shipment} (hupdate : p.update label remote.remoteId.shown s w = (o, v)) :
    p.transmit label remote s w = (o.map fun r => (r, .updated), v) := by
  rw [transmit, if_pos h]
  cases o with
  | error f => exact Run.bind_of_error hupdate _
  | ok r => exact Run.bind_of_ok hupdate _

theorem recover_of_create (label : Text) (cause : RemoteError) {s : Shipment}
    (hcreate : p.create s { w with state := w.state.clearRemoteState label } = (o, v)) :
    p.recover label cause s w =
      ((o.mapError (Failure.inRecovery cause)).map fun r => (r, .created), v) := by
  rw [recover, Run.bind_of_ok (Run.onState_apply _ w), Run.handle_apply,
    transmit_of_not_isPublished rfl label hcreate]
  cases o <;> rfl

/-- Asking for the article and replacing it is an update. -/
theorem leads_update (e : Errand) (remoteId : Text) (w : World σ) :
    p.Leads id (.asking e remoteId, w)
      (e.updated (p.update e.label remoteId e.prepared.shipment w).1,
        (p.update e.label remoteId e.prepared.shipment w).2) := by
  rw [update]
  rcases hget : Run.call (p.api.get remoteId) w with ⟨f | current, v⟩
  · rw [Run.bind_of_error hget]
    refine .one ?_
    rw [step, hget]
    rfl
  · rw [Run.bind_of_ok hget]
    cases hrevision : current.revision.isEmpty with
    | true =>
        refine .one ?_
        rw [step, hget]
        dsimp only
        rw [hrevision]
        rfl
    | false =>
        have hasked : p.step id (.asking e remoteId, w) = (.updating e remoteId current.revision,
            { v with state := v.state.setRevision e.label current.revision }) := by
          rw [step, hget]
          dsimp only
          rw [hrevision]
          rfl
        exact .step hasked (.one rfl)

/-- Forgetting an article and creating it once more is a recovery. -/
theorem leads_recover (e : Errand) (cause : RemoteError) (w : World σ) :
    p.Leads id (.forgetting e cause, w)
      (e.after ((p.recover e.label cause e.prepared.shipment w).1.map fun r => (r.1, r.2, true)),
        (p.recover e.label cause e.prepared.shipment w).2) := by
  rcases hcreate : p.create e.prepared.shipment
      { w with state := w.state.clearRemoteState e.label } with ⟨o, v⟩
  rw [recover_of_create e.label cause hcreate]
  have hforgotten : p.step id (.forgetting e cause, w) =
      (.creating e (some cause), { w with state := w.state.clearRemoteState e.label }) :=
    rfl
  refine .step hforgotten (.one ?_)
  rw [step_creating hcreate]
  cases o <;> rfl

/-- What has been prepared is delivered. -/
theorem leads_deliver (e : Errand) (w : World σ) :
    p.Leads id (.prepared e, w)
      (e.after (p.deliver e.label e.prepared.shipment w).1,
        (p.deliver e.label e.prepared.shipment w).2) := by
  rw [deliver, Run.bind_of_ok (Run.get_apply w), Run.handle_apply]
  cases hpublished : (w.state.remoteState e.label).isPublished with
  | false =>
      have hlooked : p.step id (.prepared e, w) = (.creating e none, w) := by
        rw [step, hpublished]
        rfl
      rcases hcreate : p.create e.prepared.shipment w with ⟨o, v⟩
      have htransmit := transmit_of_not_isPublished hpublished e.label hcreate
      refine .step hlooked (.one ?_)
      rw [step_creating hcreate]
      cases o with
      | error f => rw [Run.bind_of_error htransmit]; rfl
      | ok r => rw [Run.bind_of_ok htransmit]; rfl
  | true =>
      have hlooked : p.step id (.prepared e, w) =
          (.asking e (w.state.remoteState e.label).remoteId.shown, w) := by
        rw [step, hpublished]
        rfl
      have hupdated : p.Leads id _ _ :=
        leads_update e (w.state.remoteState e.label).remoteId.shown w
      rcases hupdate : p.update e.label (w.state.remoteState e.label).remoteId.shown
          e.prepared.shipment w with ⟨f | r, v⟩
      · rw [Run.bind_of_error (transmit_of_isPublished hpublished hupdate)]
        rw [hupdate] at hupdated
        refine .step hlooked (hupdated.trans ?_)
        rw [Errand.updated, Errand.turnedDown]
        dsimp only
        cases f.missingArticle? with
        | none => exact .refl _ _ _
        | some cause =>
            dsimp only
            have hrecovered : p.Leads id _ _ := leads_recover e cause v
            rcases hrecover : p.recover e.label cause e.prepared.shipment v with
              ⟨f | ⟨r, status⟩, u⟩
            · rw [Run.bind_of_error hrecover]
              rwa [hrecover] at hrecovered
            · rw [Run.bind_of_ok hrecover]
              rwa [hrecover] at hrecovered
      · rw [Run.bind_of_ok (transmit_of_isPublished hpublished hupdate)]
        rw [hupdate] at hupdated
        exact .step hlooked hupdated

end Delivery

/-! ## The whole push -/

theorem leads_closing (room : Text) (outcome : Except Failure PushResult) (w : World σ) :
    p.Leads id (.closing room outcome, w) (.ended outcome, settled id room w) :=
  .one rfl

theorem leads_send (e : Errand) (w : World σ) :
    p.Leads id (.prepared e, w) (.ended (p.send e.label e.prepared w).1,
      settled id e.room (p.send e.label e.prepared w).2) := by
  have hdelivered : p.Leads id _ _ := leads_deliver e w
  rw [send]
  rcases hdeliver : p.deliver e.label e.prepared.shipment w with
    ⟨f | ⟨record, status, recreated⟩, v⟩
  · rw [Run.bind_of_error hdeliver]
    rw [hdeliver] at hdelivered
    exact hdelivered.trans (leads_closing _ _ v)
  · rw [Run.bind_of_ok hdeliver]
    rw [hdeliver] at hdelivered
    exact hdelivered.trans (.step rfl (leads_closing _ _ _))

theorem leads_exportAndSend (room : Text) (c : Content) (w : World σ) :
    p.Leads id (.opened c room, w) (.ended (p.exportAndSend room c w).1,
      settled id room (p.exportAndSend room c w).2) := by
  rw [exportAndSend]
  rcases hprepare : p.prepare room c w with ⟨f | prepared, v⟩
  · rw [Run.bind_of_error hprepare]
    refine .step ?_ (leads_closing _ _ v)
    rw [step, hprepare]
  · rw [Run.bind_of_ok hprepare]
    cases hoverride : p.overrideFailure? prepared.check with
    | some f =>
        rw [Run.bind_of_error (Run.failing_apply (some f) v)]
        refine .step ?_ (leads_closing _ _ v)
        rw [step, hprepare]
        dsimp only
        rw [hoverride]
    | none =>
        rw [Run.bind_of_ok (Run.failing_apply none v)]
        cases hsync : prepared.check.inSync p.override with
        | true =>
            rw [if_pos rfl]
            refine .step ?_ (leads_closing _ _ v)
            rw [step, hprepare]
            dsimp only
            rw [hoverride, hsync]
            rfl
        | false =>
            rw [if_neg Bool.false_ne_true]
            refine .step ?_ (leads_send ⟨c.label, room, prepared⟩ v)
            rw [step, hprepare]
            dsimp only
            rw [hoverride, hsync]
            rfl

/-- Without anything in between, the steps of a push are the push. -/
theorem leads_push (p : PushSetup σ) (id : Text) (w : World σ) :
    p.Leads id (.called, w) (.ended (p.push id w).1, (p.push id w).2) := by
  rw [push]
  rcases haccept : p.accept id w with ⟨f | ⟨result | c⟩, v⟩
  · rw [Run.bind_of_error haccept]
    refine .one ?_
    rw [step, haccept]
  · rw [Run.bind_of_ok haccept]
    refine .one ?_
    rw [step, haccept]
    rfl
  · rw [Run.bind_of_ok haccept]
    have haccepted : p.step id (.called, w) = (.accepted c, v) := by
      rw [step, haccept]
    refine .step haccepted ?_
    dsimp only
    rcases hopen : openWorkspace id v with ⟨f | room, u⟩
    · rw [Run.bind_of_error hopen]
      refine .one ?_
      rw [step, hopen]
    · rw [Run.bind_of_ok hopen]
      refine .step ?_ (leads_exportAndSend room c u)
      rw [step, hopen]

end PushSetup

/-! ## The items are read once -/

/-- The world with other content. -/
def World.withContents (w : World σ) (contents : ContentStore) : World σ :=
  { w with contents := contents }

namespace Run

variable {α β : Type}

/-- The run does not look at the content of the host, and does not change it. -/
def Blind (r : Run σ α) : Prop :=
  ∀ (w : World σ) contents,
    r (w.withContents contents) = ((r w).1, (r w).2.withContents contents)

theorem blind_pure (a : α) : Blind (pure a : Run σ α) :=
  fun _ _ => rfl

theorem blind_ofExcept (r : Except Failure α) : Blind (ofExcept r : Run σ α) := by
  intro w contents
  rw [ofExcept_apply, ofExcept_apply]

theorem blind_ofFault (r : Except Fault α) : Blind (ofFault r : Run σ α) :=
  blind_ofExcept _

theorem blind_failing (f : Option Failure) : Blind (failing f : Run σ Unit) := by
  cases f <;> exact fun _ _ => rfl

theorem Blind.bind {r : Run σ α} {f : α → Run σ β} (hr : Blind r) (hf : ∀ a, Blind (f a)) :
    Blind (r >>= f) := by
  intro w contents
  rw [bind_apply, bind_apply, hr w contents]
  rcases r w with ⟨e | a, v⟩
  · rfl
  · exact hf a v contents

theorem blind_get_bind {f : World σ → Run σ α} (hf : ∀ w, Blind (f w))
    (hsame : ∀ w contents, f (World.withContents w contents) = f w) : Blind (get >>= f) := by
  intro w contents
  rw [bind_of_ok (get_apply w), bind_of_ok (get_apply _), hsame]
  exact hf w w contents

theorem blind_reach (id : Text) : Blind (reach id : Run σ Unit) := by
  intro w contents
  have hstate : (w.withContents contents).state = w.state := rfl
  rw [reach_apply, reach_apply, hstate]
  cases w.state.nameFault? [id] <;> rfl

end Run

namespace PushSetup

variable (p : PushSetup σ) (id : Text)

theorem blind_openWorkspace : (openWorkspace id : Run σ Text).Blind := by
  intro w contents
  rw [openWorkspace_apply, openWorkspace_apply]
  cases Workspace.create [] id <;> rfl

theorem blind_writeDocument (room : Text) (document : Table Json) :
    (writeDocument room document : Run σ Unit).Blind := by
  intro w contents
  have htemporary : (w.withContents contents).temporary = w.temporary := rfl
  rw [writeDocument, Run.bind_of_ok (Run.get_apply w), Run.bind_of_ok (Run.get_apply _), htemporary]
  cases Table.get? room w.temporary with
  | none => rfl
  | some space =>
      dsimp only
      rw [Run.bind_of_ok (Run.set_apply _ w), Run.bind_of_ok (Run.set_apply _ _)]
      exact Run.blind_ofFault (space.write (.obj document)).2
        { w with temporary := Table.set room (space.write (.obj document)).1 w.temporary } contents

theorem blind_prepare (room : Text) (c : Content) : (p.prepare room c).Blind := by
  refine Run.blind_get_bind (fun w => ?_) fun _ _ => rfl
  refine (Run.blind_ofExcept _).bind fun exported => (blind_writeDocument _ _).bind fun _ => ?_
  refine (Run.blind_ofFault _).bind fun _ => (Run.blind_failing _).bind fun _ => ?_
  refine (Run.blind_reach _).bind fun _ => Run.blind_get_bind (fun w => ?_) fun _ _ => rfl
  exact (Run.blind_ofFault _).bind fun _ => Run.blind_pure _

theorem blind_create (s : Shipment) : (p.create s).Blind :=
  Run.blind_get_bind (fun _ _ _ => rfl) fun _ _ => rfl

variable {p id} {s : PushStage}

/-- A push that has been called and has taken its first step goes the same way whatever becomes
of the content of the host. -/
theorem step_withContents (hs : s ≠ .called) (w : World σ) (contents : ContentStore) :
    p.step id (s, w.withContents contents) =
      ((p.step id (s, w)).1, (p.step id (s, w)).2.withContents contents) := by
  cases s with
  | called => exact absurd rfl hs
  | accepted c =>
      rw [step, step, blind_openWorkspace]
      rcases (openWorkspace id : Run σ Text) w with ⟨f | room, v⟩ <;> rfl
  | opened c room =>
      rw [step, step, blind_prepare]
      rcases p.prepare room c w with ⟨f | prepared, v⟩
      · rfl
      · dsimp only
        cases p.overrideFailure? prepared.check with
        | some f => rfl
        | none =>
            dsimp only
            split
            · rfl
            · rfl
  | prepared e =>
      have hstate : (w.withContents contents).state = w.state := rfl
      rw [step, step, hstate]
      split
      · rfl
      · rfl
  | asking e remoteId =>
      have hcall : Run.call (p.api.get remoteId) (w.withContents contents) =
          ((Run.call (p.api.get remoteId) w).1,
            (Run.call (p.api.get remoteId) w).2.withContents contents) :=
        rfl
      rw [step, step, hcall]
      rcases Run.call (p.api.get remoteId) w with ⟨f | current, v⟩
      · rfl
      · dsimp only
        split
        · rfl
        · rfl
  | creating e cause =>
      rw [step, step, blind_create]
      rcases p.create e.prepared.shipment w with ⟨f | record, v⟩ <;> rfl
  | _ => rfl

end PushSetup

end ArticleExport
