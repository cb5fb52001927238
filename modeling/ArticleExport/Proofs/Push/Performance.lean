import ArticleExport.Proofs.Push.Course

/-!
# Pushed or queued

A push is performed in one of two ways.  Either it runs, and its course is one
of those of `PushSetup.Course`; or it is handed to the scheduler, with its item
marked as queued.  In both ways an error of the export or push is reported as a
result.

What the scheduler does with the world that it is handed is up to the host.
-/

namespace ArticleExport

variable {σ : Type}

/-- The world in which nothing has been pushed yet, with the state kept in memory. -/
def World.fresh (settings : Settings) (contents : ContentStore) (service : σ) : World σ where
  settings := settings
  contents := contents
  state := ⟨.whole 0, .inMemory⟩
  service := service
  temporary := []
  asked := []
  queued := []

/-- The settings of a host with an account at the service, which may queue pushes. -/
def Settings.ofAccount (isQueueing : Bool) : Settings :=
  { Settings.default with
    apiKey := "key", apiSecret := "secret", apiChannel := "channel-1", apiAsync := isQueueing }

/-- The setup of a host with a client and nothing else. -/
def PushSetup.ofApi (api : PublishingApi σ) : PushSetup σ where
  api := api
  themes := .initial
  variants := []
  specs := .empty
  shouldSkip := none
  override := none
  filter := none
  scheduler := none

/-- The world that a scheduler is handed with an item. -/
def World.handed (w : World σ) (id : Text) : World σ :=
  { w with state := w.state.markPending id, queued := w.queued ++ [id] }

namespace PushSetup

/-- What queueing a push can do: the world that it leaves, and the outcome. -/
inductive Queueing (q : PushSetup σ) (id : Text) (w : World σ) :
    World σ → Except Failure PushResult → Prop
  /-- The item is not handed to a scheduler. -/
  | unhanded {o : Except Failure PushResult}
      (hunhanded : q.scheduler = none ∨ w.state.nameFault? [id] ≠ none ∨
        w.state.isPending id = true)
      (ho : ∀ r, o = .ok r → r = .brief id .skipped [PushWording.pending id]) :
      Queueing q id w w o
  /-- The scheduler takes the item. -/
  | handed {schedule : Scheduler σ} (hschedule : q.scheduler = some schedule)
      (hreach : w.state.nameFault? [id] = none) (hpending : w.state.isPending id = false)
      {v : World σ} (hv : schedule id (w.handed id) = (none, v)) :
      Queueing q id w v (.ok (.brief id .queued []))
  /-- The scheduler refuses the item. -/
  | refused {schedule : Scheduler σ} (hschedule : q.scheduler = some schedule)
      (hreach : w.state.nameFault? [id] = none) (hpending : w.state.isPending id = false)
      {refusal : Text} {v : World σ} (hv : schedule id (w.handed id) = (some refusal, v)) :
      Queueing q id w { v with state := v.state.clearPending id }
        (.error (.error (.scheduling id refusal)))

theorem queue_queueing (q : PushSetup σ) (id : Text) (w : World σ) :
    ∃ o v, q.queue id w = (o, v) ∧ Queueing q id w v o := by
  rw [queue]
  cases hschedule : q.scheduler with
  | none => exact ⟨_, w, rfl, .unhanded (.inl hschedule) (by simp)⟩
  | some schedule =>
      dsimp only
      rw [Run.bind_apply, Run.reach_apply]
      cases hreach : w.state.nameFault? [id] with
      | some f => exact ⟨_, w, rfl, .unhanded (.inr (.inl (by simp [hreach]))) (by simp)⟩
      | none =>
          dsimp only
          rw [Run.bind_of_ok (Run.get_apply w)]
          cases hpending : w.state.isPending id with
          | true =>
              rw [if_pos rfl]
              exact ⟨_, w, rfl, .unhanded (.inr (.inr hpending))
                fun r hr => (Except.ok.inj hr).symm⟩
          | false =>
              rw [if_neg Bool.false_ne_true]
              rcases hv : schedule id (w.handed id) with ⟨refusal, v⟩
              have hscheduled : (liftM (schedule id) : Run σ (Option Text)) (w.handed id) =
                  (.ok refusal, v) := by
                rw [Run.liftM_apply, hv]
              rw [Run.bind_of_ok (Run.onState_apply _ w), Run.bind_of_ok (Run.modify_apply _ _)]
              change ∃ o v, (_ >>= _ : Run σ PushResult) (w.handed id) = (o, v) ∧ _
              rw [Run.bind_of_ok hscheduled]
              cases refusal with
              | none => exact ⟨_, v, rfl, .handed hschedule hreach hpending hv⟩
              | some refusal => exact ⟨_, _, rfl, .refused hschedule hreach hpending hv⟩

/-- The outcome as it is given to the caller: an error of the export or push is
a result. -/
def report (id : Text) : Except Failure PushResult → Except Failure PushResult
  | .error (.error e) => .ok (.failed id e)
  | o => o

theorem handle_reported (r : Run σ PushResult) (id : Text) (w : World σ) :
    (r.handle (reported id)) w = (report id (r w).1, (r w).2) := by
  rw [Run.handle_apply]
  rcases r w with ⟨f | a, v⟩
  · cases f <;> rfl
  · rfl

variable {q : PushSetup σ} {id : Text} {scheduled : Bool} {w : World σ}

theorem perform_of_queueing (h : w.isQueueing scheduled = true) :
    q.perform id scheduled w = (report id (q.queue id w).1, (q.queue id w).2) := by
  rw [perform, Run.bind_of_ok (Run.get_apply w), if_pos h]
  exact handle_reported _ id w

theorem perform_of_pushing (h : w.isQueueing scheduled = false) :
    q.perform id scheduled w = (report id (q.push id w).1, (q.push id w).2) := by
  rw [perform, Run.bind_of_ok (Run.get_apply w), if_neg (by simp [h])]
  exact handle_reported _ id w

end PushSetup

/-! ## Without the notes -/

namespace PushSetup

variable {p : PushSetup σ} {item id : Text} {scheduled : Bool} {w : World σ}
  {notes : List (Text × ServiceCall)}

theorem Prepares.plain
    {c : Content} {prepared : Prepared}
    (h : (p.noted item).Prepares (w.noting notes) c prepared) : p.Prepares w c prepared :=
  ⟨h.shipment, h.stored, h.fingerprint⟩

theorem Sending.plain
    {c : Content} {calls : List ServiceCall} {change : StateStore → StateStore}
    {o : Except Failure PushResult}
    (h : (p.noted item).Sending c (w.noting notes) calls change o) :
    p.Sending c w calls change o := by
  cases h with
  | unprepared f => exact .unprepared f
  | inSync hprepared hsync => exact .inSync hprepared.plain hsync
  | undelivered hprepared hdelivery => exact .undelivered hprepared.plain hdelivery
  | delivered hprepared hdelivery => exact .delivered hprepared.plain hdelivery

theorem Accepting.plain
    {change : StateStore → StateStore} {o : Except Failure (Except PushResult Content)}
    (h : (p.noted item).Accepting id (w.noting notes) change o) :
    p.Accepting id w change o := by
  cases h with
  | unreachable hreach => exact .unreachable hreach
  | undecided hconfigured hc hverdict => exact .undecided hconfigured hc hverdict
  | refused e hreach hrefused => exact .refused e hreach hrefused
  | skipped hreach hconfigured hc hverdict => exact .skipped hreach hconfigured hc hverdict
  | accepted hreach hconfigured hc hverdict => exact .accepted hreach hconfigured hc hverdict

theorem Course.plain
    {calls : List ServiceCall} {change : StateStore → StateStore}
    {o : Except Failure PushResult}
    (h : (p.noted item).Course id (w.noting notes) calls change o) :
    p.Course id w calls change o := by
  cases h with
  | unaccepted haccept => exact .unaccepted haccept.plain
  | dismissed haccept => exact .dismissed haccept.plain
  | noRoom haccept hroom => exact .noRoom haccept.plain hroom
  | ran haccept hroom hsending => exact .ran haccept.plain hroom hsending.plain

/-- A push that runs takes one of the courses, with its own calls. -/
theorem perform_course
    (p : PushSetup σ) (id : Text) (h : w.isQueueing scheduled = false) :
    ∃ change o, p.Course id w (p.calls id scheduled w) change o ∧
      (p.perform id scheduled w).1 = report id o ∧
      (p.perform id scheduled w).2.state = change w.state := by
  -- the calls are those of the same push with notes, which takes the same course
  have hqueueing : (w.noting []).isQueueing scheduled = false := h
  obtain ⟨calls, change, o, v, hpush, hcourse, hv⟩ :=
    push_course (rfl : (p.noted id).api = p.api.noted id) id (w.noting [])
  have hperform : (p.noted id).perform id scheduled (w.noting []) = (report id o, v) := by
    rw [perform_of_pushing hqueueing, hpush]
  obtain ⟨hresult, hworld⟩ := p.perform_noted id id scheduled w []
  rw [hperform] at hresult hworld
  have hcalls : p.calls id scheduled w = calls := by
    rw [PushSetup.calls, hperform, hv.calls]
    change (calls.map fun c => (id, c)).map Prod.snd = calls
    rw [List.map_map]
    exact List.map_id calls
  refine ⟨change, o, ?_, hresult.symm, ?_⟩
  · rw [hcalls]
    exact hcourse.plain
  · rw [← hworld]
    exact hv.state

/-- What a scheduler does is not noted. -/
theorem calls_of_noted_scheduler
    {schedule : Scheduler (Noted σ)} (hschedule : (p.noted item).scheduler = some schedule)
    {u v : World (Noted σ)} {refusal : Option Text} (h : schedule id u = (refusal, v)) :
    v.service.calls = u.service.calls := by
  obtain ⟨schedule', -, rfl⟩ := Option.map_eq_some_iff.mp hschedule
  obtain ⟨-, rfl⟩ := Prod.mk.inj h
  rfl

/-- A push that is queued makes no calls. -/
theorem calls_of_queueing (h : w.isQueueing scheduled = true) :
    p.calls id scheduled w = [] := by
  have hqueueing : (w.noting []).isQueueing scheduled = true := h
  obtain ⟨o, v, hqueue, hqueued⟩ := queue_queueing (p.noted id) id (w.noting [])
  have hcalls : v.service.calls = [] := by
    cases hqueued with
    | unhanded => rfl
    | handed hschedule _ _ hv => exact calls_of_noted_scheduler hschedule hv
    | refused hschedule _ _ hv => exact calls_of_noted_scheduler hschedule hv
  rw [PushSetup.calls, perform_of_queueing hqueueing, hqueue, hcalls]
  rfl

end PushSetup

end ArticleExport
