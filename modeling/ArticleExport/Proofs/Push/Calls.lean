import ArticleExport.Proofs.Push.Runs

/-!
# The calls of a push

A service can be wrapped into one that notes every call together with what came
of it and with the content item for which it was made.  The calls of a push are
those noted when it runs on the wrapped service.

The notes do not interfere: a push on the wrapped service has the result of the
push itself, and leaves the same world once the notes are taken away again
(`PushSetup.perform_noted`).  What a scheduler does when a push is handed to it
is not part of that push, so its calls are not noted here.
-/

namespace ArticleExport

/-- A call of the service, and what came of it. -/
inductive ServiceCall where
  /-- An article was to be created from a document, in a channel. -/
  | create (document : Json) (channel : Text) (bundles : List Text) (metadata : Table Json)
      (outcome : Except Failure ArticleRecord)
  /-- A revision of an article was to be replaced by a document. -/
  | update (remoteId revision : Text) (document : Json) (bundles : List Text)
      (metadata : Table Json) (outcome : Except Failure ArticleRecord)
  /-- An article was asked for. -/
  | get (remoteId : Text) (outcome : Except Failure ArticleRecord)
  /-- A channel was asked for. -/
  | channel (channel : Text) (outcome : Except Failure (Table Json))

/-- A service with notes of its calls, each under the content item for which it
was made. -/
structure Noted (σ : Type) where
  /-- The service. -/
  service : σ
  /-- The calls so far. -/
  calls : List (Text × ServiceCall)

variable {σ τ α β : Type}

/-- A call that is noted for a content item. -/
def Noted.call (item : Text) (note : Except Failure α → ServiceCall) (f : ApiCall σ α) :
    ApiCall (Noted σ) α := fun s =>
  (⟨(f s.service).1, s.calls ++ [(item, note (f s.service).2)]⟩, (f s.service).2)

/-- The client that notes its calls for a content item. -/
def PublishingApi.noted (api : PublishingApi σ) (item : Text) : PublishingApi (Noted σ) where
  create document channel bundles metadata :=
    Noted.call item (.create document channel bundles metadata)
      (api.create document channel bundles metadata)
  update remoteId revision document bundles metadata :=
    Noted.call item (.update remoteId revision document bundles metadata)
      (api.update remoteId revision document bundles metadata)
  get remoteId := Noted.call item (.get remoteId) (api.get remoteId)
  channel channel := Noted.call item (.channel channel) (api.channel channel)

namespace World

/-- The world with another service. -/
def withService (w : World σ) (service : τ) : World τ :=
  ⟨w.settings, w.contents, w.state, service, w.temporary, w.asked, w.queued⟩

/-- The world without the notes. -/
def plain (w : World (Noted σ)) : World σ := w.withService w.service.service

/-- The world with notes of calls. -/
def noting (w : World σ) (calls : List (Text × ServiceCall)) : World (Noted σ) :=
  w.withService ⟨w.service, calls⟩

variable (w : World (Noted σ))

theorem plain_state : w.plain.state = w.state := rfl

theorem plain_contents : w.plain.contents = w.contents := rfl

theorem plain_temporary : w.plain.temporary = w.temporary := rfl

end World

/-- The scheduler beside the notes: what it does is not noted. -/
def Scheduler.besideNotes (schedule : Scheduler σ) : Scheduler (Noted σ) := fun id w =>
  ((schedule id w.plain).1, (schedule id w.plain).2.noting w.service.calls)

namespace PushSetup

/-- The setup with a client that notes its calls for a content item. -/
def noted (p : PushSetup σ) (item : Text) : PushSetup (Noted σ) where
  api := p.api.noted item
  themes := p.themes
  variants := p.variants
  specs := p.specs
  shouldSkip := p.shouldSkip
  override := p.override
  filter := p.filter
  scheduler := p.scheduler.map Scheduler.besideNotes
  failures := p.failures

/-- The calls that a push makes, in order. -/
def calls (p : PushSetup σ) (id : Text) (scheduled : Bool) (w : World σ) : List ServiceCall :=
  (((p.noted id).perform id scheduled (w.noting [])).2.service.calls).map Prod.snd

end PushSetup

/-! ## Notes do not interfere -/

namespace Run

/-- A run with notes comes to the same as one without. -/
def Tracks (r' : Run (Noted σ) α) (r : Run σ α) : Prop :=
  ∀ w : World (Noted σ), (r' w).1 = (r w.plain).1 ∧ (r' w).2.plain = (r w.plain).2

theorem tracks_pure (a : α) : Tracks (pure a : Run (Noted σ) α) (pure a) :=
  fun _ => ⟨rfl, rfl⟩

theorem tracks_throw (f : Failure) : Tracks (throw f : Run (Noted σ) α) (throw f) :=
  fun _ => ⟨rfl, rfl⟩

theorem tracks_ofExcept (r : Except Failure α) :
    Tracks (ofExcept r : Run (Noted σ) α) (ofExcept r) := by
  cases r with
  | ok a => exact tracks_pure a
  | error f => exact tracks_throw f

theorem tracks_ofFault (r : Except Fault α) :
    Tracks (ofFault r : Run (Noted σ) α) (ofFault r) :=
  tracks_ofExcept _

theorem tracks_failing (f : Option Failure) :
    Tracks (failing f : Run (Noted σ) Unit) (failing f) := by
  cases f with
  | none => exact tracks_pure _
  | some f => exact tracks_throw f

theorem tracks_onState (f : StateStore → StateStore) :
    Tracks (onState f : Run (Noted σ) Unit) (onState f) :=
  fun _ => ⟨rfl, rfl⟩

theorem tracks_call
    (item : Text) (note : Except Failure α → ServiceCall) (f : ApiCall σ α) :
    Tracks (call (Noted.call item note f)) (call f) :=
  fun _ => ⟨rfl, rfl⟩

theorem tracks_modify
    {f' : World (Noted σ) → World (Noted σ)} {f : World σ → World σ}
    (h : ∀ w, (f' w).plain = f w.plain) :
    Tracks (modify f' : Run (Noted σ) PUnit) (modify f) :=
  fun w => ⟨rfl, h w⟩

theorem Tracks.bind
    {r' : Run (Noted σ) α} {r : Run σ α}
    {f' : α → Run (Noted σ) β} {f : α → Run σ β}
    (hr : Tracks r' r) (hf : ∀ a, Tracks (f' a) (f a)) :
    Tracks (r' >>= f') (r >>= f) := by
  intro w
  obtain ⟨hresult, hworld⟩ := hr w
  rcases h : r' w with ⟨x, v⟩
  rcases h' : r w.plain with ⟨y, u⟩
  rw [h, h'] at hresult hworld
  dsimp only at hresult hworld
  subst hresult hworld
  cases x with
  | error e => rw [bind_of_error h, bind_of_error h']; exact ⟨rfl, rfl⟩
  | ok a => rw [bind_of_ok h, bind_of_ok h']; exact hf a v

/-- A run that looks at the world sees the same with and without notes, apart
from the notes themselves. -/
theorem tracks_get_bind
    {f' : World (Noted σ) → Run (Noted σ) α} {f : World σ → Run σ α}
    (hf : ∀ w, Tracks (f' w) (f w.plain)) :
    Tracks (get >>= f') (get >>= f) := by
  intro w
  rw [bind_of_ok (get_apply w), bind_of_ok (get_apply w.plain)]
  exact hf w w

theorem tracks_set
    {v' : World (Noted σ)} {v : World σ} (h : v'.plain = v) :
    Tracks (set v' : Run (Noted σ) PUnit) (set v) :=
  fun _ => ⟨rfl, h⟩

theorem tracks_schedule (schedule : Scheduler σ) (id : Text) :
    Tracks (liftM (schedule.besideNotes id) : Run (Noted σ) (Option Text))
      (liftM (schedule id)) :=
  fun _ => ⟨rfl, rfl⟩

theorem tracks_ite
    {c : Prop} [Decidable c] {r' s' : Run (Noted σ) α} {r s : Run σ α}
    (hr : Tracks r' r) (hs : Tracks s' s) :
    Tracks (if c then r' else s') (if c then r else s) := by
  split
  · exact hr
  · exact hs

theorem tracks_reach (id : Text) : Tracks (reach id : Run (Noted σ) Unit) (reach id) := by
  refine tracks_get_bind fun w => ?_
  dsimp only [World.plain_state]
  cases w.state.nameFault? [id] with
  | none => exact tracks_pure _
  | some f => exact tracks_throw _

theorem Tracks.handle
    {r' : Run (Noted σ) α} {r : Run σ α}
    {f' : Failure → Run (Noted σ) α} {f : Failure → Run σ α}
    (hr : Tracks r' r) (hf : ∀ e, Tracks (f' e) (f e)) :
    Tracks (r'.handle f') (r.handle f) := by
  intro w
  obtain ⟨hresult, hworld⟩ := hr w
  rw [handle_apply, handle_apply]
  rcases h : r' w with ⟨x, v⟩
  rcases h' : r w.plain with ⟨y, u⟩
  rw [h, h'] at hresult hworld
  dsimp only at hresult hworld
  subst hresult hworld
  cases x with
  | error e => exact hf e v
  | ok a => exact ⟨rfl, rfl⟩

theorem Tracks.andFinally
    {r' : Run (Noted σ) α} {r : Run σ α}
    {f' : World (Noted σ) → World (Noted σ)} {f : World σ → World σ}
    (hr : Tracks r' r) (hf : ∀ w, (f' w).plain = f w.plain) :
    Tracks (r'.andFinally f') (r.andFinally f) := by
  intro w
  obtain ⟨hresult, hworld⟩ := hr w
  rw [andFinally_apply, andFinally_apply]
  refine ⟨hresult, ?_⟩
  rw [hf, hworld]

end Run

namespace PushSetup

variable (p : PushSetup σ) (item : Text)

theorem tracks_askHost (c : Content) :
    ((p.noted item).askHost c).Tracks (p.askHost c) := by
  have hveto : (p.noted item).shouldSkip = p.shouldSkip := rfl
  unfold askHost
  rw [hveto]
  cases p.shouldSkip with
  | none => exact Run.tracks_pure _
  | some veto =>
      exact (Run.tracks_modify fun _ => rfl).bind fun _ =>
        (Run.tracks_failing _).bind fun _ => Run.tracks_pure _

theorem tracks_skipReason (c : Content) :
    ((p.noted item).skipReason c).Tracks (p.skipReason c) := by
  refine (p.tracks_askHost item c).bind fun vetoed => ?_
  cases vetoed with
  | true => exact Run.tracks_pure _
  | false =>
      refine Run.tracks_get_bind fun w => (Run.tracks_ofFault _).bind fun isTerm => ?_
      cases isTerm with
      | true => exact Run.tracks_pure _
      | false => exact Run.tracks_pure _

theorem tracks_unmark (id : Text) :
    (unmark id : Run (Noted σ) Unit).Tracks (unmark id) :=
  (Run.tracks_reach id).bind fun _ => Run.tracks_onState _

theorem tracks_start (id : Text) (c : Content) :
    ((p.noted item).start id c).Tracks (p.start id c) := by
  refine (p.tracks_skipReason item c).bind fun reason => ?_
  cases reason with
  | some reason => exact (tracks_unmark id).bind fun _ => Run.tracks_pure _
  | none =>
      exact (Run.tracks_reach id).bind fun _ =>
        (Run.tracks_onState _).bind fun _ => Run.tracks_pure _

theorem tracks_accept (id : Text) :
    ((p.noted item).accept id).Tracks (p.accept id) := by
  refine Run.tracks_get_bind fun w => ?_
  refine Run.tracks_ite ?_ ?_
  · rw [World.plain_contents]
    cases KeyTable.get? (.text id) w.contents with
    | some c => exact p.tracks_start item id c
    | none => exact (tracks_unmark id).bind fun _ => Run.tracks_throw _
  · exact (tracks_unmark id).bind fun _ => Run.tracks_throw _

theorem tracks_writeDocument (room : Text) (document : Table Json) :
    (writeDocument room document : Run (Noted σ) Unit).Tracks (writeDocument room document) := by
  refine Run.tracks_get_bind fun w => ?_
  dsimp only [World.plain_temporary]
  cases Table.get? room w.temporary with
  | none => exact Run.tracks_throw _
  | some space => exact (Run.tracks_set rfl).bind fun _ => Run.tracks_ofFault _

theorem tracks_prepare (room : Text) (c : Content) :
    ((p.noted item).prepare room c).Tracks (p.prepare room c) := by
  refine Run.tracks_get_bind fun w => (Run.tracks_ofExcept _).bind fun exported => ?_
  refine (tracks_writeDocument _ _).bind fun _ => (Run.tracks_ofFault _).bind fun shipment => ?_
  refine (Run.tracks_failing _).bind fun _ => (Run.tracks_reach _).bind fun _ => ?_
  exact Run.tracks_get_bind fun v =>
    (Run.tracks_ofFault _).bind fun _ => Run.tracks_pure _

theorem tracks_create (s : Shipment) :
    ((p.noted item).create s).Tracks (p.create s) :=
  Run.tracks_get_bind fun _ => Run.tracks_call _ _ _

theorem tracks_update (id remoteId : Text) (s : Shipment) :
    ((p.noted item).update id remoteId s).Tracks (p.update id remoteId s) := by
  refine (Run.tracks_call _ _ _).bind fun current => ?_
  refine Run.tracks_ite ?_ ?_
  · exact Run.tracks_throw _
  · exact (Run.tracks_onState _).bind fun _ => Run.tracks_call _ _ _

theorem tracks_transmit (id : Text) (remote : RemoteState) (s : Shipment) :
    ((p.noted item).transmit id remote s).Tracks (p.transmit id remote s) := by
  refine Run.tracks_ite ?_ ?_
  · exact (p.tracks_update item id _ s).bind fun _ => Run.tracks_pure _
  · exact (p.tracks_create item s).bind fun _ => Run.tracks_pure _

theorem tracks_recover (id : Text) (cause : RemoteError) (s : Shipment) :
    ((p.noted item).recover id cause s).Tracks (p.recover id cause s) :=
  (Run.tracks_onState _).bind fun _ =>
    (p.tracks_transmit item id .unknown s).handle fun _ => Run.tracks_throw _

theorem tracks_deliver (id : Text) (s : Shipment) :
    ((p.noted item).deliver id s).Tracks (p.deliver id s) := by
  refine Run.tracks_get_bind fun w => ?_
  refine Run.Tracks.handle ?_ fun f => ?_
  · exact (p.tracks_transmit item id _ s).bind fun _ => Run.tracks_pure _
  · dsimp only [World.plain_state]
    cases (w.state.remoteState id).isPublished with
    | false => exact Run.tracks_throw _
    | true =>
        cases f.missingArticle? with
        | none => exact Run.tracks_throw _
        | some e => exact (p.tracks_recover item id e s).bind fun _ => Run.tracks_pure _

theorem tracks_send (id : Text) (prepared : Prepared) :
    ((p.noted item).send id prepared).Tracks (p.send id prepared) :=
  (p.tracks_deliver item id _).bind fun _ =>
    (Run.tracks_onState _).bind fun _ => Run.tracks_pure _

theorem tracks_exportAndSend (room : Text) (c : Content) :
    ((p.noted item).exportAndSend room c).Tracks (p.exportAndSend room c) := by
  refine (p.tracks_prepare item room c).bind fun prepared => ?_
  refine (Run.tracks_failing _).bind fun _ => Run.tracks_ite ?_ ?_
  · exact Run.tracks_pure _
  · exact p.tracks_send item c.label prepared

theorem tracks_openWorkspace (id : Text) :
    (openWorkspace id : Run (Noted σ) Text).Tracks (openWorkspace id) :=
  (Run.tracks_ofFault _).bind fun _ => Run.tracks_get_bind fun _ =>
    (Run.tracks_modify fun _ => rfl).bind fun _ => Run.tracks_pure _

theorem tracks_push (id : Text) :
    ((p.noted item).push id).Tracks (p.push id) := by
  refine (p.tracks_accept item id).bind fun accepted => ?_
  cases accepted with
  | error result => exact Run.tracks_pure _
  | ok c =>
      refine (tracks_openWorkspace id).bind fun room => ?_
      exact (p.tracks_exportAndSend item room c).andFinally fun _ => rfl

theorem tracks_queue (id : Text) :
    ((p.noted item).queue id).Tracks (p.queue id) := by
  have hscheduler : (p.noted item).scheduler = p.scheduler.map Scheduler.besideNotes := rfl
  unfold queue
  rw [hscheduler]
  cases p.scheduler with
  | none => exact Run.tracks_throw _
  | some schedule =>
      refine (Run.tracks_reach id).bind fun _ => Run.tracks_get_bind fun w => ?_
      refine Run.tracks_ite (Run.tracks_pure _) ?_
      refine (Run.tracks_onState _).bind fun _ => (Run.tracks_modify fun _ => rfl).bind fun _ => ?_
      refine (Run.tracks_schedule schedule id).bind fun refusal => ?_
      cases refusal with
      | none => exact Run.tracks_pure _
      | some refusal => exact (Run.tracks_onState _).bind fun _ => Run.tracks_throw _

theorem tracks_reported (id : Text) (f : Failure) :
    (reported id f : Run (Noted σ) PushResult).Tracks (reported id f) := by
  cases f with
  | error e => exact Run.tracks_pure _
  | fault f => exact Run.tracks_throw _

theorem tracks_perform (id : Text) (scheduled : Bool) :
    ((p.noted item).perform id scheduled).Tracks (p.perform id scheduled) := by
  refine Run.tracks_get_bind fun w => Run.tracks_ite ?_ ?_
  · exact (p.tracks_queue item id).handle (tracks_reported id)
  · exact (p.tracks_push item id).handle (tracks_reported id)

/-- Noting the calls of a push changes neither its result nor the world that it
leaves. -/
theorem perform_noted
    (id : Text) (scheduled : Bool) (w : World σ) (notes : List (Text × ServiceCall)) :
    ((p.noted item).perform id scheduled (w.noting notes)).1 = (p.perform id scheduled w).1 ∧
      ((p.noted item).perform id scheduled (w.noting notes)).2.plain =
        (p.perform id scheduled w).2 :=
  p.tracks_perform item id scheduled (w.noting notes)

end PushSetup

end ArticleExport
