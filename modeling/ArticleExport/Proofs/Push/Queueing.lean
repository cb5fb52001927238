import ArticleExport.Proofs.Push.Desk

/-!
# Queueing a push once

A push that is to be queued marks its item and calls the scheduler, and the mark is what keeps
the item from being handed over a second time.  A push of the item takes the mark away, as long
as it gets far enough; nothing else does, and a scheduler that refuses the item has it taken
away again.

`QueueRun` is a run of pushes of any items, queued and not, in which schedulers may run pushes
themselves as soon as they are called; its events are the calls of schedulers and the pushes.
`QueueSound` is the invariant: an item that a scheduler has taken is marked until it has been
pushed, and an item without a mark has nothing under the key of the mark.
-/

namespace ArticleExport

open StateStore

variable {σ : Type}

/-! ## What a push does to the marks of queued pushes -/

namespace StateStore

/-- The store can be used for the same names, and a key reads the same at every item but one,
where it may be gone. -/
structure ClearsAtMost (id key : Text) (s t : StateStore) : Prop where
  nameFault : ∀ names, t.nameFault? names = s.nameFault? names
  others : ∀ item : Text, item ≠ id → t.get item key = s.get item key
  own : t.get id key = s.get id key ∨ t.get id key = .null

namespace ClearsAtMost

variable {id key : Text} {s t u : StateStore}

theorem of_keepsKey (h : s.KeepsKey key t) (id : Text) : s.ClearsAtMost id key t :=
  ⟨h.nameFault, fun item _ => h.get item, .inl (h.get id)⟩

theorem trans (hst : s.ClearsAtMost id key t) (htu : t.ClearsAtMost id key u) :
    s.ClearsAtMost id key u := by
  constructor
  · intro names
    rw [htu.nameFault, hst.nameFault]
  · intro item hitem
    rw [htu.others item hitem, hst.others item hitem]
  · rcases htu.own with hsame | hgone
    · rw [hsame]
      exact hst.own
    · exact .inr hgone

theorem clearMarkers (s : StateStore) (id : Text) :
    s.ClearsAtMost id pendingKey (s.clearMarkers id) := by
  constructor
  · exact (KeepsItems.clearMarkers s id).nameFault
  · intro item hitem
    rw [get_clearMarkers, if_neg fun h => hitem h.1.symm]
  · rw [get_clearMarkers, if_pos ⟨rfl, .inl rfl⟩]
    exact .inr rfl

end ClearsAtMost

/-- Nothing differs but a key of an item. -/
structure SameBut (id key : Text) (s t : StateStore) : Prop where
  get : ∀ item other : Text, ¬(item = id ∧ other = key) → t.get item other = s.get item other
  transient : ∀ name, t.holdings.transient? name = s.holdings.transient? name

theorem SameBut.refl (id key : Text) (s : StateStore) : s.SameBut id key s :=
  ⟨fun _ _ _ => rfl, fun _ => rfl⟩

theorem SameBut.trans {id key : Text} {s t u : StateStore} (hst : s.SameBut id key t)
    (htu : t.SameBut id key u) : s.SameBut id key u :=
  ⟨fun item other h => (htu.get item other h).trans (hst.get item other h),
    fun name => (htu.transient name).trans (hst.transient name)⟩

theorem sameBut_markPending (s : StateStore) (id : Text) :
    s.SameBut id pendingKey (s.markPending id) := by
  constructor
  · intro item other hother
    rw [markPending, get_set, if_neg fun h => hother ⟨h.1.symm, h.2.symm⟩]
  · intro name
    exact s.holdings.transient?_set id pendingKey s.stamp name

theorem sameBut_clearPending (s : StateStore) (id : Text) :
    s.SameBut id pendingKey (s.clearPending id) := by
  constructor
  · intro item other hother
    rw [clearPending, get_delete, if_neg fun h => hother ⟨h.1.symm, h.2.symm⟩]
  · intro name
    exact s.holdings.transient?_delete id pendingKey name

theorem get_clearPending_self (s : StateStore) (id : Text) :
    (s.clearPending id).get id pendingKey = .null := by
  rw [clearPending, get_delete, if_pos ⟨rfl, rfl⟩]

end StateStore

section Deliveries

variable {id remoteId channel : Text} {remote : RemoteState} {s : Shipment}
  {calls : List ServiceCall} {change : StateStore → StateStore}

theorem Updating.keepsPendingKey {o : Except Failure ArticleRecord}
    (h : Updating id remoteId s calls change o) (t : StateStore) :
    t.KeepsKey pendingKey (change t) := by
  cases h with
  | unanswered => exact .refl _ t
  | withoutRevision => exact .refl _ t
  | sent r => exact .set t (by decide) id r.revision

theorem Delivery.keepsPendingKey {o : Except Failure (ArticleRecord × PushStatus × Bool)}
    (h : Delivery id remote channel s calls change o) (t : StateStore) :
    t.KeepsKey pendingKey (change t) := by
  cases h with
  | created => exact .refl _ t
  | updated _ hu _ => exact hu.keepsPendingKey t
  | recreated _ hu _ _ =>
      exact (hu.keepsPendingKey t).trans (.clearRemoteState _ (by decide) id)

end Deliveries

namespace PushSetup

variable {p : PushSetup σ} {id : Text} {scheduled : Bool} {w : World σ}
  {calls : List ServiceCall} {change : StateStore → StateStore}

theorem Sending.keepsPendingKey {c : Content} {o : Except Failure PushResult}
    (h : p.Sending c w calls change o) (t : StateStore) : t.KeepsKey pendingKey (change t) := by
  cases h with
  | unprepared => exact .refl _ t
  | inSync => exact .refl _ t
  | undelivered _ hdelivery => exact hdelivery.keepsPendingKey t
  | delivered _ hdelivery =>
      exact ((hdelivery.keepsPendingKey t).trans (.saveRecord _ (by decide) _ _)).trans
        (.set _ (by decide) _ _)

theorem Accepting.clearsAtMost {o : Except Failure (Except PushResult Content)}
    (h : p.Accepting id w change o) (t : StateStore) :
    t.ClearsAtMost id pendingKey (change t) := by
  cases h with
  | unreachable => exact .of_keepsKey (.refl _ t) id
  | undecided => exact .of_keepsKey (.refl _ t) id
  | refused => exact .clearMarkers t id
  | skipped => exact .clearMarkers t id
  | accepted => exact .of_keepsKey (.set t (by decide) id _) id

theorem Course.clearsAtMost {o : Except Failure PushResult}
    (h : p.Course id w calls change o) (t : StateStore) :
    t.ClearsAtMost id pendingKey (change t) := by
  cases h with
  | unaccepted haccept => exact haccept.clearsAtMost t
  | dismissed haccept => exact haccept.clearsAtMost t
  | noRoom haccept => exact haccept.clearsAtMost t
  | ran haccept _ hsending =>
      exact ((haccept.clearsAtMost t).trans (.of_keepsKey (hsending.keepsPendingKey _) id)).trans
        (.clearMarkers _ id)

/-- A push that runs takes at most the mark of its own item away. -/
theorem clearsAtMost_perform (p : PushSetup σ) (id : Text) (h : w.isQueueing scheduled = false) :
    w.state.ClearsAtMost id pendingKey (p.perform id scheduled w).2.state := by
  obtain ⟨change, o, hcourse, -, hstate⟩ := perform_course p id h
  rw [hstate]
  exact hcourse.clearsAtMost w.state

end PushSetup

/-! ## Runs -/

/-- What happens to an item that is queued. -/
inductive QueueEvent where
  /-- A scheduler is called with the item, and takes it or refuses it. -/
  | called (id : Text) (isTaken : Bool)
  /-- A push of the item runs. -/
  | pushed (id : Text)

/-- Pushes that run one after the other, by their items.  In between anything may happen that
leaves the marks of queued pushes alone. -/
inductive Pushing : World σ → List Text → World σ → Prop
  | refl (w : World σ) : Pushing w [] w
  | edit {w v u : World σ} {ids : List Text} (h : Pushing w ids v)
      (hstate : v.state.KeepsKey pendingKey u.state) : Pushing w ids u
  | push {w v : World σ} {ids : List Text} (h : Pushing w ids v) (p : PushSetup σ) (id : Text)
      {scheduled : Bool} (hruns : v.isQueueing scheduled = false) :
      Pushing w (ids ++ [id]) (p.perform id scheduled v).2

/-- The item is handed to the scheduler where a push of it is to be queued. -/
structure PushSetup.HandsOver (p : PushSetup σ) (schedule : Scheduler σ) (id : Text) (w : World σ) :
    Prop where
  scheduler : p.scheduler = some schedule
  reach : w.state.nameFault? [id] = none
  pending : w.state.isPending id = false

/-- The events of a push that is queued.  The scheduler may run pushes itself. -/
inductive PushSetup.QueueEvents (p : PushSetup σ) (id : Text) (w : World σ) :
    List QueueEvent → Prop
  | uncalled (h : ∀ schedule, ¬p.HandsOver schedule id w) : QueueEvents p id w []
  | called {schedule : Scheduler σ} (h : p.HandsOver schedule id w) {ids : List Text}
      (hpushes : Pushing (w.handed id) ids (schedule id (w.handed id)).2) :
      QueueEvents p id w
        (.called id (schedule id (w.handed id)).1.isNone :: ids.map .pushed)

/-- Pushes of a host that starts with nothing kept, queued and not, with their events. -/
inductive QueueRun : List QueueEvent → World σ → Prop
  | start {w : World σ} (hempty : ∀ id key : Text, w.state.get id key = .null) : QueueRun [] w
  | pushing {events : List QueueEvent} {w v : World σ} {ids : List Text} (h : QueueRun events w)
      (hpushes : Pushing w ids v) : QueueRun (events ++ ids.map .pushed) v
  | queueing {events added : List QueueEvent} {w : World σ} (h : QueueRun events w)
      (p : PushSetup σ) (id : Text) {scheduled : Bool} (hqueues : w.isQueueing scheduled = true)
      (hadded : p.QueueEvents id w added) :
      QueueRun (events ++ added) (p.perform id scheduled w).2

namespace QueueEvent

variable {events : List QueueEvent} {e : QueueEvent} {id : Text}

/-- A scheduler has taken the item, and it has not been pushed since. -/
def Owed (id : Text) (events : List QueueEvent) : Prop :=
  ∃ before after, events = before ++ .called id true :: after ∧ .pushed id ∉ after

/-- Between two calls with which schedulers have taken an item it has been pushed. -/
def NeverTwice (events : List QueueEvent) : Prop :=
  ∀ id before between after,
    events = before ++ .called id true :: (between ++ .called id true :: after) →
      .pushed id ∈ between

theorem not_owed_nil (id : Text) : ¬Owed id [] := by
  rintro ⟨before, after, h, -⟩
  simp at h

theorem owed_concat_iff :
    Owed id (events ++ [e]) ↔ e = .called id true ∨ (Owed id events ∧ e ≠ .pushed id) := by
  constructor
  · rintro ⟨before, after, h, hafter⟩
    rcases List.eq_nil_or_concat after with rfl | ⟨after, last, rfl⟩
    · obtain ⟨-, hlast⟩ := List.append_inj' h rfl
      exact .inl (List.singleton_inj.mp hlast)
    · rw [List.concat_eq_append, List.mem_append, List.mem_singleton, not_or] at hafter
      rw [List.concat_eq_append, ← List.cons_append, ← List.append_assoc] at h
      obtain ⟨hevents, hlast⟩ := List.append_inj' h rfl
      obtain rfl := List.singleton_inj.mp hlast
      exact .inr ⟨⟨before, after, hevents, hafter.1⟩, fun he => hafter.2 he.symm⟩
  · rintro (rfl | ⟨⟨before, after, rfl, hafter⟩, he⟩)
    · exact ⟨events, [], rfl, List.not_mem_nil⟩
    · refine ⟨before, after ++ [e], by simp, ?_⟩
      rw [List.mem_append, List.mem_singleton, not_or]
      exact ⟨hafter, fun h => he h.symm⟩

theorem neverTwice_nil : NeverTwice [] := by
  intro id before between after h
  simp at h

/-- An item can be taken once more where it is not owed. -/
theorem NeverTwice.concat (h : NeverTwice events)
    (hfree : ∀ id, e = .called id true → ¬Owed id events) : NeverTwice (events ++ [e]) := by
  intro id before between after heq
  rcases List.eq_nil_or_concat after with rfl | ⟨after, last, rfl⟩
  · rw [← List.cons_append, ← List.append_assoc] at heq
    obtain ⟨hevents, hlast⟩ := List.append_inj' heq rfl
    by_contra hbetween
    exact hfree id (List.singleton_inj.mp hlast) ⟨before, between, hevents, hbetween⟩
  · have hsplit : before ++ .called id true :: (between ++ .called id true :: (after ++ [last])) =
        (before ++ .called id true :: (between ++ .called id true :: after)) ++ [last] := by
      simp
    rw [List.concat_eq_append, hsplit] at heq
    exact h id before between after (List.append_inj' heq rfl).1

theorem not_owed_append_pushed (h : ¬Owed id events) (ids : List Text) :
    ¬Owed id (events ++ ids.map .pushed) := by
  induction ids using List.reverseRecOn with
  | nil => simpa using h
  | append_singleton ids last ih =>
      rw [List.map_append, ← List.append_assoc]
      intro howed
      rcases owed_concat_iff.mp howed with heq | ⟨howed, -⟩
      · cases heq
      · exact ih howed

end QueueEvent

/-! ## The invariant -/

/-- No item was taken twice without a push of it in between, an item that was taken and has not
been pushed since is marked as queued, and an item that is not marked has nothing under the key
of the mark. -/
structure QueueSound (events : List QueueEvent) (w : World σ) : Prop where
  single : QueueEvent.NeverTwice events
  marked : ∀ id, QueueEvent.Owed id events → w.state.isPending id = true
  clear : ∀ id : Text, w.state.isPending id = false → w.state.get id pendingKey = .null

namespace QueueSound

variable {events : List QueueEvent} {id : Text} {v w : World σ}

theorem not_owed (h : QueueSound events w) (hpending : w.state.isPending id = false) :
    ¬QueueEvent.Owed id events := by
  intro howed
  rw [h.marked id howed] at hpending
  cases hpending

theorem isPending_congr {s t : StateStore} {item : Text}
    (h : t.get item pendingKey = s.get item pendingKey) : t.isPending item = s.isPending item := by
  rw [isPending, isPending, h]

theorem keeps (h : QueueSound events w) (hstate : w.state.KeepsKey pendingKey v.state) :
    QueueSound events v := by
  have hsame : ∀ item, v.state.isPending item = w.state.isPending item :=
    fun item => isPending_congr (hstate.get item)
  refine ⟨h.single, fun item howed => (hsame item).trans (h.marked item howed), ?_⟩
  intro item hitem
  rw [hstate.get item]
  exact h.clear item ((hsame item).symm.trans hitem)

/-- The key of the mark at one item changes to null. -/
theorem clears (h : QueueSound events w) (hfree : ¬QueueEvent.Owed id events)
    (hothers : ∀ item : Text, item ≠ id → v.state.get item pendingKey = w.state.get item pendingKey)
    (hown : v.state.get id pendingKey = w.state.get id pendingKey ∨
      v.state.get id pendingKey = .null) : QueueSound events v := by
  refine ⟨h.single, ?_, ?_⟩
  · intro item howed
    have hitem : item ≠ id := fun heq => hfree (heq ▸ howed)
    exact (isPending_congr (hothers item hitem)).trans (h.marked item howed)
  · intro item hpending
    by_cases hitem : item = id
    · subst hitem
      rcases hown with hsame | hnull
      · rw [hsame]
        exact h.clear item ((isPending_congr hsame).symm.trans hpending)
      · exact hnull
    · rw [hothers item hitem]
      exact h.clear item ((isPending_congr (hothers item hitem)).symm.trans hpending)

/-- An event that takes nothing. -/
theorem concat {e : QueueEvent} (h : QueueSound events w) (he : ∀ id, e ≠ .called id true) :
    QueueSound (events ++ [e]) w := by
  refine ⟨h.single.concat fun id heq => absurd heq (he id), ?_, h.clear⟩
  intro item howed
  rcases QueueEvent.owed_concat_iff.mp howed with heq | ⟨howed, -⟩
  · exact absurd heq (he item)
  · exact h.marked item howed

theorem pushed (h : QueueSound events w) (hstate : w.state.ClearsAtMost id pendingKey v.state) :
    QueueSound (events ++ [.pushed id]) v := by
  have hfree : ¬QueueEvent.Owed id (events ++ [.pushed id]) := by
    intro howed
    rcases QueueEvent.owed_concat_iff.mp howed with heq | ⟨-, hne⟩
    · cases heq
    · exact hne rfl
  have hpushed : QueueSound (events ++ [.pushed id]) w := h.concat fun _ heq => by cases heq
  exact hpushed.clears hfree hstate.others hstate.own

theorem pushing {ids : List Text} (hpushes : Pushing w ids v) (h : QueueSound events w) :
    QueueSound (events ++ ids.map .pushed) v := by
  induction hpushes with
  | refl => simpa using h
  | edit _ hstate ih => exact ih.keeps hstate
  | push _ p id hruns ih =>
      rw [List.map_append, ← List.append_assoc]
      exact ih.pushed (p.clearsAtMost_perform id hruns)

/-- A scheduler is called with an item that is not marked, and the item is marked. -/
theorem handed (h : QueueSound events w) (hpending : w.state.isPending id = false)
    (isTaken : Bool) : QueueSound (events ++ [.called id isTaken]) (w.handed id) := by
  have hmarks := w.state.sameBut_markPending id
  have hmarked : (w.handed id).state.isPending id = true := w.state.isPending_markPending id
  have hothers : ∀ item : Text, item ≠ id →
      (w.handed id).state.get item pendingKey = w.state.get item pendingKey :=
    fun item hitem => hmarks.get item pendingKey fun heq => hitem heq.1
  refine ⟨h.single.concat ?_, ?_, ?_⟩
  · rintro other heq
    cases heq
    exact h.not_owed hpending
  · intro item howed
    by_cases hitem : item = id
    · rw [hitem]
      exact hmarked
    · rcases QueueEvent.owed_concat_iff.mp howed with heq | ⟨howed, -⟩
      · cases heq
        exact absurd rfl hitem
      · exact (isPending_congr (hothers item hitem)).trans (h.marked item howed)
  · intro item hclear
    by_cases hitem : item = id
    · rw [hitem, hmarked] at hclear
      cases hclear
    · rw [hothers item hitem]
      exact h.clear item ((isPending_congr (hothers item hitem)).symm.trans hclear)

end QueueSound

/-! ## One push that is queued -/

namespace PushSetup

variable {p : PushSetup σ} {schedule : Scheduler σ} {id : Text} {scheduled : Bool} {w v : World σ}

/-- How a push ends that was handed to a scheduler, by what the scheduler has answered. -/
def afterScheduling (id : Text) : Option Text × World σ → Except Failure PushResult × World σ
  | (none, v) => (.ok (.brief id .queued []), v)
  | (some refusal, v) =>
    (.ok (.failed id (.scheduling id refusal)), { v with state := v.state.clearPending id })

/-- What a push that is queued does where the item is handed to the scheduler. -/
theorem HandsOver.perform_eq (h : p.HandsOver schedule id w)
    (hqueues : w.isQueueing scheduled = true) :
    p.perform id scheduled w = afterScheduling id (schedule id (w.handed id)) := by
  obtain ⟨o, u, hqueue, hqueued⟩ := p.queue_queueing id w
  rw [perform_of_queueing hqueues, hqueue]
  cases hqueued with
  | unhanded hunhanded =>
      rcases hunhanded with hnone | hreach | hpending
      · rw [h.scheduler] at hnone
        cases hnone
      · exact absurd h.reach hreach
      · rw [h.pending] at hpending
        cases hpending
  | handed hschedule _ _ hu =>
      obtain rfl := Option.some.inj (h.scheduler.symm.trans hschedule)
      rw [hu]
      rfl
  | refused hschedule _ _ hu =>
      obtain rfl := Option.some.inj (h.scheduler.symm.trans hschedule)
      rw [hu]
      rfl

/-- The result of a push does not say that it was queued, or that a scheduler has refused it. -/
def IsUncalled (o : Except Failure PushResult) : Prop :=
  ∀ r, o = .ok r → r.status ≠ .queued ∧ ∀ id refusal, r.error ≠ some (.scheduling id refusal)

theorem isUncalled_error (f : Failure) : IsUncalled (.error f) := by
  intro r hr
  cases hr

theorem isUncalled_brief (id : Text) (messages : List Text) :
    IsUncalled (.ok (.brief id .skipped messages)) := by
  intro r hr
  obtain rfl := Except.ok.inj hr
  have hstatus : PushStatus.skipped ≠ .queued := by decide
  refine ⟨hstatus, fun _ _ h => ?_⟩
  cases h

theorem isUncalled_configuration (id wording : Text) :
    IsUncalled (.ok (.failed id (.configuration wording))) := by
  intro r hr
  obtain rfl := Except.ok.inj hr
  have hstatus : PushStatus.failed ≠ .queued := by decide
  refine ⟨hstatus, fun _ _ h => ?_⟩
  cases Option.some.inj h

/-- What a push that is queued does where the item is handed to no scheduler. -/
theorem perform_of_not_handsOver (h : ∀ schedule, ¬p.HandsOver schedule id w)
    (hqueues : w.isQueueing scheduled = true) :
    (p.perform id scheduled w).2 = w ∧ IsUncalled (p.perform id scheduled w).1 := by
  rw [perform_of_queueing hqueues]
  cases hscheduler : p.scheduler with
  | none =>
      have hqueue : p.queue id w = (.error (.error (.configuration PushWording.noScheduler)), w) := by
        rw [queue, hscheduler]
        rfl
      rw [hqueue]
      exact ⟨rfl, isUncalled_configuration id PushWording.noScheduler⟩
  | some schedule =>
      cases hreach : w.state.nameFault? [id] with
      | some f =>
          have hqueue : p.queue id w = (.error (.fault f), w) := by
            rw [queue, hscheduler]
            dsimp only
            rw [Run.bind_apply, Run.reach_apply, hreach]
          rw [hqueue]
          exact ⟨rfl, isUncalled_error (.fault f)⟩
      | none =>
          have hpending : w.state.isPending id = true := by
            by_contra hclear
            exact h schedule ⟨hscheduler, hreach, Bool.eq_false_iff.mpr hclear⟩
          rw [queue_of_isPending hscheduler hreach hpending]
          exact ⟨rfl, isUncalled_brief id [PushWording.pending id]⟩

/-- A push that is queued makes no call, and by itself it changes nothing but the mark of its
item: before the scheduler is called the mark is set, and where the scheduler refuses the item
it is taken away.  Everything else that differs afterwards the scheduler has done. -/
structure QueuesCleanly (p : PushSetup σ) (id : Text) (scheduled : Bool) (w : World σ) : Prop where
  calls : p.calls id scheduled w = []
  uncalled : (∀ schedule, ¬p.HandsOver schedule id w) →
    (p.perform id scheduled w).2 = w ∧ IsUncalled (p.perform id scheduled w).1
  marked : w.state.SameBut id pendingKey (w.handed id).state
  others : (∀ schedule, p.scheduler = some schedule →
      (schedule id (w.handed id)).2.state = (w.handed id).state) →
    w.state.SameBut id pendingKey (p.perform id scheduled w).2.state
  taken : ∀ schedule v, p.HandsOver schedule id w → schedule id (w.handed id) = (none, v) →
    p.perform id scheduled w = (.ok (.brief id .queued []), v)
  refused : ∀ schedule refusal v, p.HandsOver schedule id w →
    schedule id (w.handed id) = (some refusal, v) →
      (p.perform id scheduled w).1 = .ok (.failed id (.scheduling id refusal)) ∧
      v.state.SameBut id pendingKey (p.perform id scheduled w).2.state ∧
      (p.perform id scheduled w).2.state.get id pendingKey = .null
  restored : ∀ schedule refusal v, p.HandsOver schedule id w →
    schedule id (w.handed id) = (some refusal, v) → v.state = (w.handed id).state →
      ∀ item key : Text, (p.perform id scheduled w).2.state.get item key = w.state.get item key
  again : ∀ schedule refusal v ids, p.HandsOver schedule id w →
    schedule id (w.handed id) = (some refusal, v) → Pushing (w.handed id) ids v →
      ∀ u pushed, Pushing (p.perform id scheduled w).2 pushed u →
        ∀ (q : PushSetup σ) next, q.scheduler = some next → q.HandsOver next id u

end PushSetup

/-- Pushes leave a store usable for the same names, and an item without a mark without one. -/
theorem Pushing.keepsClear {ids : List Text} {v w : World σ} (h : Pushing w ids v) :
    (∀ names, v.state.nameFault? names = w.state.nameFault? names) ∧
      ∀ item : Text, w.state.get item pendingKey = .null → v.state.get item pendingKey = .null := by
  induction h with
  | refl => exact ⟨fun _ => rfl, fun _ hnull => hnull⟩
  | edit _ hstate ih =>
      exact ⟨fun names => (hstate.nameFault names).trans (ih.1 names),
        fun item hnull => (hstate.get item).trans (ih.2 item hnull)⟩
  | push _ p id hruns ih =>
      have hclears := p.clearsAtMost_perform id hruns
      refine ⟨fun names => (hclears.nameFault names).trans (ih.1 names), fun item hnull => ?_⟩
      by_cases hitem : item = id
      · rw [hitem] at hnull ⊢
        rcases hclears.own with hsame | hgone
        · exact hsame.trans (ih.2 id hnull)
        · exact hgone
      · exact (hclears.others item hitem).trans (ih.2 item hnull)

namespace QueueSound

variable {events : List QueueEvent} {p : PushSetup σ} {id : Text} {scheduled : Bool} {w : World σ}

theorem queuesCleanly (h : QueueSound events w) (hqueues : w.isQueueing scheduled = true) :
    p.QueuesCleanly id scheduled w where
  calls := PushSetup.calls_of_queueing hqueues
  uncalled huncalled := PushSetup.perform_of_not_handsOver huncalled hqueues
  marked := w.state.sameBut_markPending id
  others hsame := by
    by_cases hhands : ∃ schedule, p.HandsOver schedule id w
    · obtain ⟨schedule, hhands⟩ := hhands
      have hstate := hsame schedule hhands.scheduler
      have hmarked : w.state.SameBut id pendingKey (schedule id (w.handed id)).2.state := by
        rw [hstate]
        exact w.state.sameBut_markPending id
      rw [hhands.perform_eq hqueues]
      rcases hv : schedule id (w.handed id) with ⟨_ | refusal, v⟩
      all_goals rw [hv] at hmarked
      · exact hmarked
      · exact hmarked.trans (v.state.sameBut_clearPending id)
    · rw [(PushSetup.perform_of_not_handsOver (not_exists.mp hhands) hqueues).1]
      exact .refl id pendingKey w.state
  taken schedule v hhands hv := by
    rw [hhands.perform_eq hqueues, hv]
    rfl
  refused schedule refusal v hhands hv := by
    rw [hhands.perform_eq hqueues, hv]
    exact ⟨rfl, v.state.sameBut_clearPending id, v.state.get_clearPending_self id⟩
  restored schedule refusal v hhands hv hsame item key := by
    rw [hhands.perform_eq hqueues, hv]
    change (v.state.clearPending id).get item key = w.state.get item key
    by_cases hkey : item = id ∧ key = pendingKey
    · obtain ⟨rfl, rfl⟩ := hkey
      rw [v.state.get_clearPending_self, h.clear item hhands.pending]
    · rw [(v.state.sameBut_clearPending id).get item key hkey, hsame]
      exact (w.state.sameBut_markPending id).get item key hkey
  again schedule refusal v ids hhands hv hpushes u pushed hlater q next hnext := by
    rw [hhands.perform_eq hqueues, hv, PushSetup.afterScheduling] at hlater
    obtain ⟨hnames, hclear⟩ := hlater.keepsClear
    have hmark : u.state.get id pendingKey = .null := hclear id (v.state.get_clearPending_self id)
    have hkept : (v.state.clearPending id).nameFault? [id] = v.state.nameFault? [id] :=
      (KeepsItems.delete v.state id pendingKey).nameFault [id]
    have hmarked : (w.handed id).state.nameFault? [id] = w.state.nameFault? [id] :=
      (KeepsItems.set w.state id pendingKey _).nameFault [id]
    refine ⟨hnext, ?_, ?_⟩
    · calc
        u.state.nameFault? [id] = (v.state.clearPending id).nameFault? [id] := hnames _
        _ = v.state.nameFault? [id] := hkept
        _ = w.state.nameFault? [id] := (hpushes.keepsClear.1 _).trans hmarked
        _ = none := hhands.reach
    · rw [isPending, hmark]
      rfl

theorem queueing {added : List QueueEvent} (h : QueueSound events w)
    (hqueues : w.isQueueing scheduled = true) (hadded : p.QueueEvents id w added) :
    QueueSound (events ++ added) (p.perform id scheduled w).2 := by
  cases hadded with
  | uncalled huncalled =>
      rw [(PushSetup.perform_of_not_handsOver huncalled hqueues).1, List.append_nil]
      exact h
  | @called schedule hhands ids hpushes =>
      rw [hhands.perform_eq hqueues, List.append_cons]
      rcases hv : schedule id (w.handed id) with ⟨refusal, v⟩
      rw [hv] at hpushes
      have hcalled := (h.handed hhands.pending refusal.isNone).pushing hpushes
      cases refusal with
      | none => exact hcalled
      | some refusal =>
          have hfree : ¬QueueEvent.Owed id (events ++ [.called id false]) := by
            intro howed
            rcases QueueEvent.owed_concat_iff.mp howed with heq | ⟨howed, -⟩
            · cases heq
            · exact h.not_owed hhands.pending howed
          have hclears := v.state.sameBut_clearPending id
          exact hcalled.clears (QueueEvent.not_owed_append_pushed hfree ids)
            (fun item hitem => hclears.get item pendingKey fun heq => hitem heq.1)
            (.inr (v.state.get_clearPending_self id))

end QueueSound

theorem QueueRun.sound {events : List QueueEvent} {w : World σ} (h : QueueRun events w) :
    QueueSound events w := by
  induction h with
  | start hempty =>
      refine ⟨QueueEvent.neverTwice_nil, fun id howed => absurd howed (QueueEvent.not_owed_nil id),
        fun id _ => hempty id pendingKey⟩
  | pushing _ hpushes ih => exact ih.pushing hpushes
  | queueing _ p id hqueues hadded ih => exact ih.queueing hqueues hadded

/-- Queueing never hands an item over twice, and it fails cleanly.  In every run of pushes,
queued and not, an item that a scheduler has taken is pushed before a scheduler takes it again.
A push that is queued makes no call and touches nothing but the mark of its item; where the
scheduler refuses the item the push fails with that, the store reads as before, and the next
push that is queued calls the scheduler again. -/
theorem queued_once_and_cleanly {events : List QueueEvent} {w : World σ}
    (h : QueueRun events w) :
    QueueEvent.NeverTwice events ∧
      ∀ (p : PushSetup σ) (id : Text) (scheduled : Bool), w.isQueueing scheduled = true →
        p.QueuesCleanly id scheduled w :=
  ⟨h.sound.single, fun _ _ _ hqueues => h.sound.queuesCleanly hqueues⟩

namespace PushSetup

/-- A host whose scheduler refuses every item. -/
def refusingHost : PushSetup Rehearsal :=
  { ofApi Rehearsal.api with scheduler := some fun _ w => (some "full", w) }

/-- An item that is not there is taken, and taken again once a push of it has failed. -/
theorem exists_queueRun : ∃ w : World Rehearsal,
    QueueRun [.called "1" true, .pushed "1", .called "1" true] w ∧
      w.isQueueing false = true ∧ w.state.nameFault? ["2"] = none ∧
        w.state.isPending "2" = false := by
  let w := queueingWorld []
  let queued := (queueingHost.perform "1" false w).2
  let ended := (queueingHost.perform "1" true queued).2
  have hstart : QueueRun [] w := .start fun id key => rfl
  have hfirst : queueingHost.HandsOver (fun _ w => (none, w)) "1" w := ⟨rfl, rfl, rfl⟩
  have hfirstQueues : w.isQueueing false = true := rfl
  have hqueued := hstart.queueing queueingHost "1" hfirstQueues (.called hfirst (.refl _))
  have hruns : queued.isQueueing true = false := by decide +kernel
  have hended := hqueued.pushing (.push (.refl _) queueingHost "1" hruns)
  have hsecond : queueingHost.HandsOver (fun _ w => (none, w)) "1" ended :=
    ⟨rfl, by decide +kernel, by decide +kernel⟩
  have hsecondQueues : ended.isQueueing false = true := by decide +kernel
  have hagain := hended.queueing queueingHost "1" hsecondQueues (.called hsecond (.refl _))
  exact ⟨_, hagain, by decide +kernel, by decide +kernel, by decide +kernel⟩

/-- After a run in which an item was taken twice a scheduler refuses another one. -/
theorem queued_once_and_refused : ∃ w : World Rehearsal,
    QueueEvent.NeverTwice [.called "1" true, .pushed "1", .called "1" true] ∧
      (refusingHost.perform "2" false w).1 = .ok (.failed "2" (.scheduling "2" "full")) ∧
      ∀ item key : Text,
        (refusingHost.perform "2" false w).2.state.get item key = w.state.get item key := by
  obtain ⟨w, hrun, hqueues, hreach, hpending⟩ := exists_queueRun
  obtain ⟨hsingle, hclean⟩ := queued_once_and_cleanly hrun
  have hqueueing := hclean refusingHost "2" false hqueues
  have hhands : refusingHost.HandsOver (fun _ w => (some "full", w)) "2" w := ⟨rfl, hreach, hpending⟩
  exact ⟨w, hsingle, (hqueueing.refused _ _ _ hhands rfl).1,
    hqueueing.restored _ _ _ hhands rfl rfl⟩

end PushSetup

end ArticleExport
