import ArticleExport.Proofs.Push.Performance
import ArticleExport.Proofs.State.Marking

/-!
# The marker of a push under way is overlooked

A push marks its item as under way, and nothing ever asks for that mark.  Two worlds that
differ in such marks only are not told apart: `Run.Agrees` says that two runs come to the same
in any two such worlds, and every part of a push agrees with itself.

So a push makes the same calls whether or not another push of its item is marked as under way
(`PushSetup.calls_eq_of_sameButProgress`).
-/

namespace ArticleExport

variable {σ α β : Type}

/-! ## Stores and worlds -/

namespace StateStore

variable {s t : StateStore}

/-- The two states are usable for the same names, and read the same at the same time but for
the marks of pushes under way. -/
structure SameButProgress (s t : StateStore) : Prop where
  now : t.now = s.now
  nameFault : ∀ names, t.nameFault? names = s.nameFault? names
  get : ∀ item key : Text, key ≠ inProgressKey → t.get item key = s.get item key

namespace SameButProgress

theorem of_clearInProgress (s : StateStore) (id : Text) :
    s.SameButProgress (s.clearInProgress id) := by
  constructor
  · rfl
  · intro names
    exact s.holdings.nameFault?_delete id inProgressKey names
  · intro item key hkey
    exact get_delete_of_key_ne s hkey.symm id item

theorem set (h : s.SameButProgress t) (id key x : Text) :
    (s.set id key x).SameButProgress (t.set id key x) := by
  constructor
  · exact h.now
  · intro names
    have hset : ∀ u : StateStore, (u.set id key x).nameFault? names = u.nameFault? names :=
      fun u => u.holdings.nameFault?_set id key x names
    rw [hset, hset, h.nameFault]
  · intro item key' hkey'
    rw [get_set, get_set, h.get item key' hkey']

theorem delete (h : s.SameButProgress t) (id key : Text) :
    (s.delete id key).SameButProgress (t.delete id key) := by
  constructor
  · exact h.now
  · intro names
    have hdelete : ∀ u : StateStore, (u.delete id key).nameFault? names = u.nameFault? names :=
      fun u => u.holdings.nameFault?_delete id key names
    rw [hdelete, hdelete, h.nameFault]
  · intro item key' hkey'
    rw [get_delete, get_delete, h.get item key' hkey']

theorem stamp_eq (h : s.SameButProgress t) : t.stamp = s.stamp := by
  rw [stamp, stamp, h.now]

theorem markInProgress (h : s.SameButProgress t) (id : Text) :
    (s.markInProgress id).SameButProgress (t.markInProgress id) := by
  rw [StateStore.markInProgress, StateStore.markInProgress, h.stamp_eq]
  exact h.set id _ _

theorem clearMarkers (h : s.SameButProgress t) (id : Text) :
    (s.clearMarkers id).SameButProgress (t.clearMarkers id) :=
  (h.delete id _).delete id _

theorem clearRemoteState (h : s.SameButProgress t) (id : Text) :
    (s.clearRemoteState id).SameButProgress (t.clearRemoteState id) := by
  unfold StateStore.clearRemoteState
  generalize remoteKeys ++ [checksumKey] = keys
  induction keys generalizing s t with
  | nil => exact h
  | cons key keys ih => exact ih (h.delete id key)

theorem saveRecord (h : s.SameButProgress t) (id : Text) (r : ArticleRecord) :
    (s.saveRecord id r).SameButProgress (t.saveRecord id r) :=
  (((((h.set id _ _).set id _ _).set id _ _).set id _ _).set id _ _).delete id _

theorem remoteState_eq (h : s.SameButProgress t) (item : Text) :
    t.remoteState item = s.remoteState item := by
  have hread : ∀ key ∈ remoteKeys, t.get item key = s.get item key := by
    intro key hkey
    refine h.get item key ?_
    rintro rfl
    revert hkey
    decide
  simp only [remoteState, getOrEmpty, hread remoteIdKey (by simp [remoteKeys]),
    hread revisionKey (by simp [remoteKeys]), hread createdKey (by simp [remoteKeys]),
    hread modifiedKey (by simp [remoteKeys]), hread shareKey (by simp [remoteKeys])]

theorem checksum_eq (h : s.SameButProgress t) (item : Text) : t.checksum item = s.checksum item :=
  h.get item checksumKey (by decide)

end SameButProgress

end StateStore

/-- The two worlds differ in the marks of pushes under way only. -/
structure World.SameButProgress (w v : World σ) : Prop where
  settings : v.settings = w.settings
  contents : v.contents = w.contents
  state : w.state.SameButProgress v.state
  service : v.service = w.service
  temporary : v.temporary = w.temporary
  asked : v.asked = w.asked
  queued : v.queued = w.queued

namespace World.SameButProgress

variable {w v : World σ}

theorem onState (h : w.SameButProgress v) {s t : StateStore} (hst : s.SameButProgress t) :
    World.SameButProgress { w with state := s } { v with state := t } :=
  ⟨h.settings, h.contents, hst, h.service, h.temporary, h.asked, h.queued⟩

theorem of_clearInProgress (w : World σ) (id : Text) :
    w.SameButProgress { w with state := w.state.clearInProgress id } :=
  ⟨rfl, rfl, .of_clearInProgress w.state id, rfl, rfl, rfl, rfl⟩

theorem noting (h : w.SameButProgress v) (calls : List (Text × ServiceCall)) :
    (w.noting calls).SameButProgress (v.noting calls) := by
  refine ⟨h.settings, h.contents, h.state, ?_, h.temporary, h.asked, h.queued⟩
  change Noted.mk v.service calls = Noted.mk w.service calls
  rw [h.service]

end World.SameButProgress

/-! ## Runs -/

namespace Run

/-- The runs come to the same, in any two worlds that differ in the marks of pushes under way
only. -/
def Agrees (r r' : Run σ α) : Prop :=
  ∀ w v : World σ, w.SameButProgress v → (r w).1 = (r' v).1 ∧ (r w).2.SameButProgress (r' v).2

theorem agrees_pure (a : α) : Agrees (pure a : Run σ α) (pure a) :=
  fun _ _ h => ⟨rfl, h⟩

theorem agrees_throw (f : Failure) : Agrees (throw f : Run σ α) (throw f) :=
  fun _ _ h => ⟨rfl, h⟩

theorem agrees_ofExcept (r : Except Failure α) : Agrees (ofExcept r : Run σ α) (ofExcept r) := by
  cases r with
  | ok a => exact agrees_pure a
  | error f => exact agrees_throw f

theorem agrees_ofFault (r : Except Fault α) : Agrees (ofFault r : Run σ α) (ofFault r) :=
  agrees_ofExcept _

theorem agrees_failing (f : Option Failure) : Agrees (failing f : Run σ Unit) (failing f) := by
  cases f with
  | none => exact agrees_pure _
  | some f => exact agrees_throw f

theorem agrees_onState {f : StateStore → StateStore}
    (hf : ∀ s t : StateStore, s.SameButProgress t → (f s).SameButProgress (f t)) :
    Agrees (onState f : Run σ Unit) (onState f) :=
  fun _ _ h => ⟨rfl, h.onState (hf _ _ h.state)⟩

theorem agrees_modify {f : World σ → World σ}
    (hf : ∀ w v : World σ, w.SameButProgress v → (f w).SameButProgress (f v)) :
    Agrees (modify f : Run σ PUnit) (modify f) :=
  fun w v h => ⟨rfl, hf w v h⟩

theorem agrees_set {u u' : World σ} (h : u.SameButProgress u') :
    Agrees (set u : Run σ PUnit) (set u') :=
  fun _ _ _ => ⟨rfl, h⟩

theorem agrees_call (f : ApiCall σ α) : Agrees (call f) (call f) := by
  intro w v h
  have hleft : call f w = ((f w.service).2, { w with service := (f w.service).1 }) := rfl
  have hright : call f v = ((f v.service).2, { v with service := (f v.service).1 }) := rfl
  rw [hleft, hright, h.service]
  exact ⟨rfl, h.settings, h.contents, h.state, rfl, h.temporary, h.asked, h.queued⟩

theorem Agrees.bind {r r' : Run σ α} {f f' : α → Run σ β} (hr : Agrees r r')
    (hf : ∀ a, Agrees (f a) (f' a)) : Agrees (r >>= f) (r' >>= f') := by
  intro w v h
  obtain ⟨hresult, hworld⟩ := hr w v h
  rw [bind_apply, bind_apply]
  rcases hleft : r w with ⟨x, w'⟩
  rcases hright : r' v with ⟨y, v'⟩
  rw [hleft, hright] at hresult hworld
  obtain rfl : x = y := hresult
  cases x with
  | error e => exact ⟨rfl, hworld⟩
  | ok a => exact hf a w' v' hworld

theorem agrees_get_bind {f f' : World σ → Run σ α}
    (hf : ∀ w v : World σ, w.SameButProgress v → Agrees (f w) (f' v)) :
    Agrees (get >>= f) (get >>= f') := by
  intro w v h
  rw [bind_of_ok (get_apply w), bind_of_ok (get_apply v)]
  exact hf w v h w v h

theorem agrees_reach (id : Text) : Agrees (reach id : Run σ Unit) (reach id) := by
  refine agrees_get_bind fun w v h => ?_
  rw [h.state.nameFault]
  cases w.state.nameFault? [id] with
  | none => exact agrees_pure _
  | some f => exact agrees_throw _

theorem Agrees.handle {r r' : Run σ α} {f f' : Failure → Run σ α} (hr : Agrees r r')
    (hf : ∀ e, Agrees (f e) (f' e)) : Agrees (r.handle f) (r'.handle f') := by
  intro w v h
  obtain ⟨hresult, hworld⟩ := hr w v h
  rw [handle_apply, handle_apply]
  rcases hleft : r w with ⟨x, w'⟩
  rcases hright : r' v with ⟨y, v'⟩
  rw [hleft, hright] at hresult hworld
  obtain rfl : x = y := hresult
  cases x with
  | error e => exact hf e w' v' hworld
  | ok a => exact ⟨rfl, hworld⟩

theorem Agrees.andFinally {r r' : Run σ α} {f : World σ → World σ} (hr : Agrees r r')
    (hf : ∀ w v : World σ, w.SameButProgress v → (f w).SameButProgress (f v)) :
    Agrees (r.andFinally f) (r'.andFinally f) := by
  intro w v h
  obtain ⟨hresult, hworld⟩ := hr w v h
  exact ⟨hresult, hf _ _ hworld⟩

end Run

/-! ## Pushes -/

namespace PushSetup

variable (p : PushSetup σ)

theorem agrees_askHost (c : Content) : (p.askHost c).Agrees (p.askHost c) := by
  unfold askHost
  cases p.shouldSkip with
  | none => exact Run.agrees_pure _
  | some veto =>
      have hasked : ∀ w v : World σ, w.SameButProgress v →
          World.SameButProgress { w with asked := w.asked ++ [c.id] }
            { v with asked := v.asked ++ [c.id] } := by
        intro w v h
        exact ⟨h.settings, h.contents, h.state, h.service, h.temporary, by rw [h.asked], h.queued⟩
      exact (Run.agrees_modify hasked).bind fun _ =>
        (Run.agrees_failing _).bind fun _ => Run.agrees_pure _

theorem agrees_skipReason (c : Content) : (p.skipReason c).Agrees (p.skipReason c) := by
  refine (p.agrees_askHost c).bind fun vetoed => ?_
  cases vetoed with
  | true => exact Run.agrees_pure _
  | false =>
      refine Run.agrees_get_bind fun w v h => ?_
      rw [h.settings]
      refine (Run.agrees_ofFault _).bind fun isTerm => ?_
      cases isTerm with
      | true => exact Run.agrees_pure _
      | false => exact Run.agrees_pure _

theorem agrees_unmark (id : Text) : (unmark id : Run σ Unit).Agrees (unmark id) :=
  (Run.agrees_reach id).bind fun _ => Run.agrees_onState fun _ _ h => h.clearMarkers id

theorem agrees_start (id : Text) (c : Content) : (p.start id c).Agrees (p.start id c) := by
  refine (p.agrees_skipReason c).bind fun reason => ?_
  cases reason with
  | some reason => exact (agrees_unmark id).bind fun _ => Run.agrees_pure _
  | none =>
      exact (Run.agrees_reach id).bind fun _ =>
        (Run.agrees_onState fun _ _ h => h.markInProgress id).bind fun _ => Run.agrees_pure _

theorem agrees_accept (id : Text) : (p.accept id).Agrees (p.accept id) := by
  refine Run.agrees_get_bind fun w v h => ?_
  rw [h.settings, h.contents]
  split
  · cases KeyTable.get? (.text id) w.contents with
    | some c => exact p.agrees_start id c
    | none => exact (agrees_unmark id).bind fun _ => Run.agrees_throw _
  · exact (agrees_unmark id).bind fun _ => Run.agrees_throw _

theorem agrees_openWorkspace (id : Text) :
    (openWorkspace id : Run σ Text).Agrees (openWorkspace id) := by
  refine (Run.agrees_ofFault _).bind fun space => Run.agrees_get_bind fun w v h => ?_
  rw [h.temporary]
  refine (Run.agrees_modify fun w v h => ?_).bind fun _ => Run.agrees_pure _
  exact ⟨h.settings, h.contents, h.state, h.service, by rw [h.temporary], h.asked, h.queued⟩

theorem agrees_writeDocument (room : Text) (document : Table Json) :
    (writeDocument room document : Run σ Unit).Agrees (writeDocument room document) := by
  refine Run.agrees_get_bind fun w v h => ?_
  rw [h.temporary]
  cases Table.get? room w.temporary with
  | none => exact Run.agrees_throw _
  | some space =>
      refine (Run.agrees_set ?_).bind fun _ => Run.agrees_ofFault _
      exact ⟨h.settings, h.contents, h.state, h.service, rfl, h.asked, h.queued⟩

theorem agrees_prepare (room : Text) (c : Content) :
    (p.prepare room c).Agrees (p.prepare room c) := by
  refine Run.agrees_get_bind fun w v h => ?_
  rw [h.settings]
  refine (Run.agrees_ofExcept _).bind fun exported => (agrees_writeDocument _ _).bind fun _ => ?_
  refine (Run.agrees_ofFault _).bind fun shipment => (Run.agrees_failing _).bind fun _ => ?_
  refine (Run.agrees_reach _).bind fun _ => Run.agrees_get_bind fun w v h => ?_
  rw [h.state.checksum_eq]
  exact (Run.agrees_ofFault _).bind fun _ => Run.agrees_pure _

theorem agrees_create (s : Shipment) : (p.create s).Agrees (p.create s) := by
  refine Run.agrees_get_bind fun w v h => ?_
  rw [h.settings]
  exact Run.agrees_call _

theorem agrees_update (id remoteId : Text) (s : Shipment) :
    (p.update id remoteId s).Agrees (p.update id remoteId s) := by
  refine (Run.agrees_call _).bind fun current => ?_
  split
  · exact Run.agrees_throw _
  · exact (Run.agrees_onState fun _ _ h => h.set id _ _).bind fun _ => Run.agrees_call _

theorem agrees_transmit (id : Text) (remote : RemoteState) (s : Shipment) :
    (p.transmit id remote s).Agrees (p.transmit id remote s) := by
  unfold transmit
  split
  · exact (p.agrees_update id _ s).bind fun _ => Run.agrees_pure _
  · exact (p.agrees_create s).bind fun _ => Run.agrees_pure _

theorem agrees_recover (id : Text) (cause : RemoteError) (s : Shipment) :
    (p.recover id cause s).Agrees (p.recover id cause s) :=
  (Run.agrees_onState fun _ _ h => h.clearRemoteState id).bind fun _ =>
    (p.agrees_transmit id .unknown s).handle fun _ => Run.agrees_throw _

theorem agrees_deliver (id : Text) (s : Shipment) : (p.deliver id s).Agrees (p.deliver id s) := by
  refine Run.agrees_get_bind fun w v h => ?_
  rw [h.state.remoteState_eq]
  refine Run.Agrees.handle ?_ fun f => ?_
  · exact (p.agrees_transmit id _ s).bind fun _ => Run.agrees_pure _
  · split
    · exact (p.agrees_recover id _ s).bind fun _ => Run.agrees_pure _
    · exact Run.agrees_throw _

theorem agrees_send (id : Text) (prepared : Prepared) :
    (p.send id prepared).Agrees (p.send id prepared) := by
  refine (p.agrees_deliver id _).bind fun sent => ?_
  refine (Run.agrees_onState fun s t h => ?_).bind fun _ => Run.agrees_pure _
  exact (h.saveRecord id sent.1).set id _ _

theorem agrees_exportAndSend (room : Text) (c : Content) :
    (p.exportAndSend room c).Agrees (p.exportAndSend room c) := by
  refine (p.agrees_prepare room c).bind fun prepared => (Run.agrees_failing _).bind fun _ => ?_
  split
  · exact Run.agrees_pure _
  · exact p.agrees_send c.label prepared

theorem agrees_push (id : Text) : (p.push id).Agrees (p.push id) := by
  refine (p.agrees_accept id).bind fun accepted => ?_
  cases accepted with
  | error result => exact Run.agrees_pure _
  | ok c =>
      refine (agrees_openWorkspace id).bind fun room => ?_
      refine (p.agrees_exportAndSend room c).andFinally fun w v h => ?_
      exact ⟨h.settings, h.contents, h.state.clearMarkers id, h.service,
        congrArg (Table.erase room) h.temporary, h.asked, h.queued⟩

variable {p} {id : Text} {scheduled : Bool} {w v : World σ}

/-- The calls of a push do not depend on the marks of pushes under way. -/
theorem calls_eq_of_sameButProgress (h : w.SameButProgress v) :
    p.calls id scheduled w = p.calls id scheduled v := by
  have hqueueing : v.isQueueing scheduled = w.isQueueing scheduled := by
    rw [World.isQueueing, World.isQueueing, h.settings]
  cases hw : w.isQueueing scheduled with
  | true => rw [calls_of_queueing hw, calls_of_queueing (hqueueing.trans hw)]
  | false =>
      have hleft : (w.noting []).isQueueing scheduled = false := hw
      have hright : (v.noting []).isQueueing scheduled = false := hqueueing.trans hw
      obtain ⟨-, hworld⟩ := (p.noted id).agrees_push id _ _ (h.noting [])
      rw [PushSetup.calls, PushSetup.calls, perform_of_pushing hleft, perform_of_pushing hright,
        hworld.service]

end PushSetup

end ArticleExport
