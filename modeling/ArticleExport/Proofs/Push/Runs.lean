import ArticleExport.Publish.Push
import Mathlib.Tactic.Common

/-!
# Reasoning about runs

What the pieces of a run do in a given world, and when a run leaves the
records of the world alone.  A run that stops with a failure skips what would
come next, and the world it leaves is the one that it had reached.

What a run may change is a frame, a relation that runs keep one after the other,
and `Run.Within` says that a run keeps it whatever comes of the run.
`World.SameRecords` is the frame of everything that a push does before it calls
the service: only workspaces and the list of items asked about may differ.
-/

namespace ArticleExport

variable {σ α β : Type}

namespace Run

@[simp] theorem get_apply (w : World σ) :
    (get : Run σ (World σ)) w = (.ok w, w) := rfl

@[simp] theorem set_apply (v w : World σ) :
    (set v : Run σ PUnit) w = (.ok ⟨⟩, v) := rfl

@[simp] theorem modify_apply (f : World σ → World σ) (w : World σ) :
    (modify f : Run σ PUnit) w = (.ok ⟨⟩, f w) := rfl

@[simp] theorem onState_apply (f : StateStore → StateStore) (w : World σ) :
    (onState f : Run σ Unit) w = (.ok ⟨⟩, { w with state := f w.state }) := rfl

@[simp] theorem liftM_apply (x : StateM (World σ) α) (w : World σ) :
    (liftM x : Run σ α) w = (.ok (x w).1, (x w).2) := rfl

@[simp] theorem andFinally_apply
    (r : Run σ α) (step : World σ → World σ) (w : World σ) :
    (r.andFinally step) w = ((r w).1, step (r w).2) := rfl

@[simp] theorem ofExcept_apply (r : Except Failure α) (w : World σ) :
    (ofExcept r : Run σ α) w = (r, w) := by
  cases r <;> rfl

@[simp] theorem ofFault_apply (r : Except Fault α) (w : World σ) :
    (ofFault r : Run σ α) w = (r.mapError .fault, w) :=
  ofExcept_apply _ w

theorem ofExcept_eq_ok
    {r : Except Failure α} {w v : World σ} {a : α}
    (h : ofExcept r w = (.ok a, v)) : r = .ok a ∧ v = w := by
  rw [ofExcept_apply] at h
  obtain ⟨rfl, rfl⟩ := Prod.mk.inj h
  exact ⟨rfl, rfl⟩

theorem ofFault_eq_ok
    {r : Except Fault α} {w v : World σ} {a : α}
    (h : ofFault r w = (.ok a, v)) : r = .ok a ∧ v = w := by
  obtain ⟨hr, hv⟩ := ofExcept_eq_ok h
  cases r with
  | error f => cases hr
  | ok b => cases hr; exact ⟨rfl, hv⟩

/-- The second part of a run starts from what the first part has come to, and
is skipped where the first part fails. -/
theorem bind_apply (r : Run σ α) (f : α → Run σ β) (w : World σ) :
    (r >>= f) w =
      match r w with
      | (.ok a, v) => f a v
      | (.error e, v) => (.error e, v) := by
  change (StateT.bind r (ExceptT.bindCont f)) w = _
  simp only [StateT.bind]
  rcases r w with ⟨_ | _, v⟩ <;> rfl

theorem bind_of_ok
    {r : Run σ α} {w v : World σ} {a : α}
    (h : r w = (.ok a, v)) (f : α → Run σ β) :
    (r >>= f) w = f a v := by
  rw [bind_apply, h]

theorem bind_of_error
    {r : Run σ α} {w v : World σ} {e : Failure}
    (h : r w = (.error e, v)) (f : α → Run σ β) :
    (r >>= f) w = (.error e, v) := by
  rw [bind_apply, h]

/-- Either the first part of a run fails, and nothing else happens, or the
second part goes on from where the first part has come to. -/
theorem bind_cases (r : Run σ α) (f : α → Run σ β) (w : World σ) :
    (∃ e v, r w = (.error e, v) ∧ (r >>= f) w = (.error e, v)) ∨
      ∃ a v, r w = (.ok a, v) ∧ (r >>= f) w = f a v := by
  rcases h : r w with ⟨e | a, v⟩
  · exact Or.inl ⟨e, v, rfl, bind_of_error h f⟩
  · exact Or.inr ⟨a, v, rfl, bind_of_ok h f⟩

/-- A run that succeeds has succeeded in both of its parts. -/
theorem bind_eq_ok
    {r : Run σ α} {f : α → Run σ β} {w u : World σ} {b : β}
    (h : (r >>= f) w = (.ok b, u)) : ∃ a v, r w = (.ok a, v) ∧ f a v = (.ok b, u) := by
  rcases bind_cases r f w with ⟨e, v, hr, hbind⟩ | ⟨a, v, hr, hbind⟩
  · rw [hbind] at h
    cases h
  · exact ⟨a, v, hr, hbind.symm.trans h⟩

theorem handle_apply (r : Run σ α) (handler : Failure → Run σ α) (w : World σ) :
    (r.handle handler) w =
      match r w with
      | (.ok a, v) => (.ok a, v)
      | (.error e, v) => handler e v := rfl

/-- Where the store can be used for an item, asking whether it can changes
nothing; otherwise the run ends there. -/
theorem reach_apply (id : Text) (w : World σ) :
    (reach id : Run σ Unit) w =
      match w.state.nameFault? [id] with
      | some f => (.error (.fault f), w)
      | none => (.ok ⟨⟩, w) := by
  rw [reach, bind_of_ok (get_apply w)]
  cases w.state.nameFault? [id] <;> rfl

theorem failing_apply (f : Option Failure) (w : World σ) :
    (failing f : Run σ Unit) w =
      match f with
      | some f => (.error f, w)
      | none => (.ok ⟨⟩, w) := by
  cases f <;> rfl

end Run

/-! ## What a run may change -/

/-- What a run may change: nothing, and what two runs may change one after the other. -/
class World.Frame (R : World σ → World σ → Prop) : Prop where
  refl (w : World σ) : R w w
  trans {u v w : World σ} (huv : R u v) (hvw : R v w) : R u w

namespace Run

variable {R : World σ → World σ → Prop}

/-- The run changes no more than it may, whatever comes of it. -/
def Within (R : World σ → World σ → Prop) (r : Run σ α) : Prop :=
  ∀ w : World σ, R w (r w).2

theorem Within.of_eq
    {r : Run σ α} (hr : Within R r) {w v : World σ} {o : Except Failure α}
    (h : r w = (o, v)) : R w v := by
  have hw := hr w
  rwa [h] at hw

variable [World.Frame R]

theorem within_pure (a : α) : Within R (pure a : Run σ α) :=
  fun w => World.Frame.refl w

theorem within_throw (f : Failure) : Within R (throw f : Run σ α) :=
  fun w => World.Frame.refl w

theorem within_ofExcept (r : Except Failure α) : Within R (ofExcept r : Run σ α) := by
  intro w
  rw [ofExcept_apply]
  exact World.Frame.refl w

theorem within_ofFault (r : Except Fault α) : Within R (ofFault r : Run σ α) :=
  within_ofExcept _

theorem within_failing (f : Option Failure) : Within R (failing f : Run σ Unit) := by
  cases f with
  | none => exact within_pure _
  | some f => exact within_throw f

theorem within_reach (id : Text) : Within R (reach id : Run σ Unit) := by
  intro w
  rw [reach_apply]
  cases w.state.nameFault? [id] <;> exact World.Frame.refl w

theorem Within.bind
    {r : Run σ α} {f : α → Run σ β}
    (hr : Within R r) (hf : ∀ a, Within R (f a)) : Within R (r >>= f) := by
  intro w
  rcases bind_cases r f w with ⟨e, v, h, hbind⟩ | ⟨a, v, h, hbind⟩
  · rw [hbind]
    exact hr.of_eq h
  · rw [hbind]
    exact World.Frame.trans (hr.of_eq h) (hf a v)

theorem within_get_bind
    {f : World σ → Run σ α} (hf : ∀ w, Within R (f w)) : Within R (get >>= f) :=
  Within.bind (fun w => World.Frame.refl w) hf

theorem Within.handle
    {r : Run σ α} {f : Failure → Run σ α}
    (hr : Within R r) (hf : ∀ e, Within R (f e)) : Within R (r.handle f) := by
  intro w
  rw [handle_apply]
  rcases h : r w with ⟨e | a, v⟩
  · exact World.Frame.trans (hr.of_eq h) (hf e v)
  · exact hr.of_eq h

end Run

namespace PushSetup

variable (p : PushSetup σ) {R : World σ → World σ → Prop} [World.Frame R]

/-- Asking the host is noted, and changes nothing else. -/
theorem within_askHost
    (hasked : ∀ (w : World σ) (asked : List Key), R w { w with asked := asked })
    (c : Content) : Run.Within R (p.askHost c) := by
  unfold askHost
  cases p.shouldSkip with
  | none => exact Run.within_pure _
  | some veto =>
      have hnoted : Run.Within R (modify fun w : World σ =>
          { w with asked := w.asked ++ [c.id] }) :=
        fun w => hasked w _
      exact hnoted.bind fun _ => (Run.within_failing _).bind fun _ => Run.within_pure _

theorem within_skipReason
    (hasked : ∀ (w : World σ) (asked : List Key), R w { w with asked := asked })
    (c : Content) : Run.Within R (p.skipReason c) := by
  unfold skipReason
  refine (p.within_askHost hasked c).bind fun vetoed => ?_
  split
  · exact Run.within_pure _
  · refine Run.within_get_bind fun w => (Run.within_ofFault _).bind fun isTerm => ?_
    split
    · exact Run.within_pure _
    · exact Run.within_pure _

end PushSetup

/-! ## Runs that leave the records alone -/

/-- Nothing but workspaces and the list of items asked about differs. -/
structure World.SameRecords (w v : World σ) : Prop where
  settings : v.settings = w.settings
  contents : v.contents = w.contents
  state : v.state = w.state
  service : v.service = w.service
  queued : v.queued = w.queued

namespace World.SameRecords

theorem refl (w : World σ) : w.SameRecords w :=
  ⟨rfl, rfl, rfl, rfl, rfl⟩

theorem trans {u v w : World σ} (huv : u.SameRecords v) (hvw : v.SameRecords w) :
    u.SameRecords w :=
  ⟨hvw.settings.trans huv.settings, hvw.contents.trans huv.contents,
    hvw.state.trans huv.state, hvw.service.trans huv.service,
    hvw.queued.trans huv.queued⟩

end World.SameRecords

instance : World.Frame (@World.SameRecords σ) :=
  ⟨World.SameRecords.refl, World.SameRecords.trans⟩

namespace Run

/-- The run leaves the records alone, whatever comes of it. -/
def Quiet (r : Run σ α) : Prop :=
  ∀ w : World σ, w.SameRecords (r w).2

theorem Quiet.of_eq
    {r : Run σ α} (hr : Quiet r) {w v : World σ} {o : Except Failure α}
    (h : r w = (o, v)) : w.SameRecords v :=
  Within.of_eq hr h

theorem quiet_failing (f : Option Failure) : Quiet (failing f : Run σ Unit) :=
  within_failing f

theorem quiet_reach (id : Text) : Quiet (reach id : Run σ Unit) :=
  within_reach id

end Run

namespace PushSetup

variable (p : PushSetup σ)

theorem quiet_askHost (c : Content) : (p.askHost c).Quiet :=
  p.within_askHost (fun _ _ => ⟨rfl, rfl, rfl, rfl, rfl⟩) c

theorem quiet_skipReason (c : Content) : (p.skipReason c).Quiet :=
  p.within_skipReason (fun _ _ => ⟨rfl, rfl, rfl, rfl, rfl⟩) c

theorem quiet_writeDocument (room : Text) (document : Table Json) :
    (writeDocument room document : Run σ Unit).Quiet := by
  intro w
  rw [writeDocument, Run.bind_of_ok (Run.get_apply w)]
  cases Table.get? room w.temporary with
  | none => exact .refl w
  | some space =>
      dsimp only
      rw [Run.bind_of_ok (Run.set_apply _ w), Run.ofFault_apply]
      exact ⟨rfl, rfl, rfl, rfl, rfl⟩

/-- Nothing that is sent later is kept before the service is called. -/
theorem quiet_prepare (room : Text) (c : Content) : (p.prepare room c).Quiet := by
  change Run.Within World.SameRecords (p.prepare room c)
  have hwritten (document : Table Json) :
      Run.Within World.SameRecords (writeDocument room document : Run σ Unit) :=
    quiet_writeDocument room document
  unfold prepare
  refine Run.within_get_bind fun w => (Run.within_ofExcept _).bind fun exported => ?_
  refine (hwritten _).bind fun _ => (Run.within_ofFault _).bind fun _ => ?_
  refine (Run.within_failing _).bind fun _ => (Run.within_reach _).bind fun _ => ?_
  exact Run.within_get_bind fun _ => (Run.within_ofFault _).bind fun _ => Run.within_pure _

end PushSetup

end ArticleExport
