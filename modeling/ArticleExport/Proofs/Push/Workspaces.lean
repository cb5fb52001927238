import ArticleExport.Proofs.Json.Printing
import ArticleExport.Proofs.Push.Queueing
import Mathlib.Data.List.Perm.Subperm

/-!
# Workspaces go away

A push that runs opens a workspace under a name that is not taken, works in it, and takes it away
whatever came of the work.  Nothing before it opens the workspace touches the directory for
temporary files, and nothing that it does there touches an entry of another name; so the directory
is as it was before, whether the push has a result or ends with a failure.

`World.SameRooms` is the frame condition, for what a view of the directory shows: all of it until
the workspace is open, and all but the workspace from there on.  It also says that the store can
be used for the same names, which is why the end of a push is not cut short: markers that could be
set can be taken away.
-/

namespace ArticleExport

variable {σ α : Type}

/-! ## Fresh names -/

namespace Workspace

/-- The names that are tried for the directory of an item differ from one another. -/
theorem candidate_injective (id : Text) :
    Function.Injective fun n : Nat => nameStart id ++ Text.ofNat n := by
  intro m n h
  have hdigits : Text.ofNat m = Text.ofNat n := List.append_cancel_left h
  have hnil : Json.EndsNumber [] := by
    intro c t hcons
    cases hcons
  exact (Json.ofNat_separable m n hnil hnil (congrArg (· ++ []) hdigits)).1

/-- One more name is tried than are taken, so one of those tried is not taken. -/
theorem freshName_not_mem (id : Text) (names : List Text) : freshName id names ∉ names := by
  rw [freshName]
  generalize hcandidates :
    (List.range (names.length + 1)).map (fun n => nameStart id ++ Text.ofNat n) = candidates
  cases hfound : candidates.find? fun c => !names.contains c with
  | some c => simpa using List.find?_some hfound
  | none =>
      have htaken : candidates ⊆ names := by
        intro c hc
        simpa using List.find?_eq_none.mp hfound c hc
      have hdistinct : candidates.Nodup := by
        rw [← hcandidates]
        exact List.nodup_range.map (candidate_injective id)
      have hlength : candidates.length = names.length + 1 := by
        rw [← hcandidates, List.length_map, List.length_range]
      have hle := (hdistinct.subperm htaken).length_le
      omega

example : freshName "1" ["article-1-0", "article-2-0"] = "article-1-1" := by decide

end Workspace

/-! ## What is left alone -/

/-- A view of the workspaces shows the same, and the store can be used for the same names. -/
structure World.SameRooms (view : Table Workspace → Table Workspace) (w v : World σ) : Prop where
  rooms : view v.temporary = view w.temporary
  names : ∀ names, v.state.nameFault? names = w.state.nameFault? names

namespace World.SameRooms

variable {view : Table Workspace → Table Workspace} {u v w : World σ}

theorem refl (view : Table Workspace → Table Workspace) (w : World σ) : w.SameRooms view w :=
  ⟨rfl, fun _ => rfl⟩

theorem trans (huv : u.SameRooms view v) (hvw : v.SameRooms view w) : u.SameRooms view w :=
  ⟨hvw.rooms.trans huv.rooms, fun names => (hvw.names names).trans (huv.names names)⟩

end World.SameRooms

instance (view : Table Workspace → Table Workspace) : World.Frame (@World.SameRooms σ view) :=
  ⟨World.SameRooms.refl view, World.SameRooms.trans⟩

namespace Run

variable {view : Table Workspace → Table Workspace}

theorem keepsRooms_call (f : ApiCall σ α) : Within (World.SameRooms view) (call f) :=
  fun _ => ⟨rfl, fun _ => rfl⟩

theorem keepsRooms_onState
    {f : StateStore → StateStore} (h : ∀ s, StateStore.KeepsItems s (f s)) :
    Within (World.SameRooms view) (onState f : Run σ Unit) :=
  fun w => ⟨rfl, (h w.state).nameFault⟩

end Run

namespace PushSetup

variable (p : PushSetup σ) {view : Table Workspace → Table Workspace}

/-! ## Before a workspace is open -/

theorem keepsRooms_skipReason (c : Content) :
    Run.Within (World.SameRooms view) (p.skipReason c) :=
  p.within_skipReason (fun _ _ => ⟨rfl, fun _ => rfl⟩) c

theorem keepsRooms_unmark (id : Text) : Run.Within (World.SameRooms view) (unmark id : Run σ Unit) :=
  (Run.within_reach id).bind fun _ =>
    Run.keepsRooms_onState fun s => .clearMarkers s id

theorem keepsRooms_start (id : Text) (c : Content) :
    Run.Within (World.SameRooms view) (p.start id c) := by
  unfold start
  refine (p.keepsRooms_skipReason c).bind fun reason => ?_
  cases reason with
  | some reason => exact (keepsRooms_unmark id).bind fun _ => Run.within_pure _
  | none =>
      exact (Run.within_reach id).bind fun _ =>
        (Run.keepsRooms_onState fun s => .set s id _ _).bind fun _ => Run.within_pure _

theorem keepsRooms_accept (id : Text) : Run.Within (World.SameRooms view) (p.accept id) := by
  unfold accept
  refine Run.within_get_bind fun w => ?_
  split
  · cases KeyTable.get? (.text id) w.contents with
    | some c => exact p.keepsRooms_start id c
    | none => exact (keepsRooms_unmark id).bind fun _ => Run.within_throw _
  · exact (keepsRooms_unmark id).bind fun _ => Run.within_throw _

/-! ## In a workspace -/

/-- The only step of a push that touches an open workspace. -/
theorem keepsRooms_writeDocument (room : Text) (document : Table Json) :
    Run.Within (World.SameRooms (Table.erase room))
      (writeDocument room document : Run σ Unit) := by
  intro w
  rw [writeDocument, Run.bind_of_ok (Run.get_apply w)]
  cases Table.get? room w.temporary with
  | none => exact .refl _ w
  | some space =>
      dsimp only
      rw [Run.bind_of_ok (Run.set_apply _ w), Run.ofFault_apply]
      exact ⟨Table.erase_set room _ _, fun _ => rfl⟩

theorem keepsRooms_prepare (room : Text) (c : Content) :
    Run.Within (World.SameRooms (Table.erase room)) (p.prepare room c) := by
  unfold prepare
  refine Run.within_get_bind fun w => (Run.within_ofExcept _).bind fun exported => ?_
  refine (keepsRooms_writeDocument room _).bind fun _ => ?_
  refine (Run.within_ofFault _).bind fun _ => (Run.within_failing _).bind fun _ => ?_
  refine (Run.within_reach _).bind fun _ => Run.within_get_bind fun _ => ?_
  exact (Run.within_ofFault _).bind fun _ => Run.within_pure _

theorem keepsRooms_create (s : Shipment) : Run.Within (World.SameRooms view) (p.create s) :=
  Run.within_get_bind fun _ => Run.keepsRooms_call _

theorem keepsRooms_update (id remoteId : Text) (s : Shipment) :
    Run.Within (World.SameRooms view) (p.update id remoteId s) := by
  unfold update
  refine (Run.keepsRooms_call _).bind fun current => ?_
  split
  · exact Run.within_throw _
  · exact (Run.keepsRooms_onState fun t => .set t id _ _).bind fun _ => Run.keepsRooms_call _

theorem keepsRooms_transmit (id : Text) (remote : RemoteState) (s : Shipment) :
    Run.Within (World.SameRooms view) (p.transmit id remote s) := by
  unfold transmit
  split
  · exact (p.keepsRooms_update _ _ s).bind fun _ => Run.within_pure _
  · exact (p.keepsRooms_create s).bind fun _ => Run.within_pure _

theorem keepsRooms_recover (id : Text) (cause : RemoteError) (s : Shipment) :
    Run.Within (World.SameRooms view) (p.recover id cause s) :=
  (Run.keepsRooms_onState fun t => .clearRemoteState t id).bind fun _ =>
    (p.keepsRooms_transmit id _ s).handle fun _ => Run.within_throw _

theorem keepsRooms_deliver (id : Text) (s : Shipment) :
    Run.Within (World.SameRooms view) (p.deliver id s) := by
  unfold deliver
  refine Run.within_get_bind fun w => ?_
  refine ((p.keepsRooms_transmit id _ s).bind fun _ => Run.within_pure _).handle fun f => ?_
  split
  · exact (p.keepsRooms_recover id _ s).bind fun _ => Run.within_pure _
  · exact Run.within_throw f

theorem keepsRooms_send (id : Text) (prepared : Prepared) :
    Run.Within (World.SameRooms view) (p.send id prepared) := by
  unfold send
  refine (p.keepsRooms_deliver id _).bind fun sent => ?_
  refine (Run.keepsRooms_onState fun s => ?_).bind fun _ => Run.within_pure _
  exact (StateStore.KeepsItems.saveRecord s id _).trans (.set _ id _ _)

/-- What a push does in its workspace touches no other entry of the directory, whatever comes of
it. -/
theorem keepsRooms_exportAndSend (room : Text) (c : Content) :
    Run.Within (World.SameRooms (Table.erase room)) (p.exportAndSend room c) := by
  unfold exportAndSend
  refine (p.keepsRooms_prepare room c).bind fun prepared => ?_
  refine (Run.within_failing _).bind fun _ => ?_
  split
  · exact Run.within_pure _
  · exact p.keepsRooms_send _ prepared

/-- Opening a workspace adds an entry under a name that is not taken, or changes nothing. -/
theorem openWorkspace_cases (id : Text) (w : World σ) :
    (∃ f, (openWorkspace id : Run σ Text) w = (.error f, w)) ∨
      ∃ room space, room ∉ Table.keys w.temporary ∧
        (openWorkspace id : Run σ Text) w =
          (.ok room, { w with temporary := Table.set room space w.temporary }) := by
  rw [openWorkspace_apply]
  cases Workspace.create [] id with
  | error f => exact .inl ⟨_, rfl⟩
  | ok space => exact .inr ⟨_, space, Workspace.freshName_not_mem id _, rfl⟩

/-- A push leaves the directory for temporary files as it was, whatever comes of it. -/
theorem keepsRooms_push (id : Text) : Run.Within (World.SameRooms fun rooms => rooms) (p.push id) := by
  unfold push
  refine (p.keepsRooms_accept id).bind fun accepted => ?_
  cases accepted with
  | error result => exact Run.within_pure result
  | ok c =>
      intro w
      dsimp only
      rcases openWorkspace_cases id w with ⟨f, hopen⟩ | ⟨room, space, hfresh, hopen⟩
      · rw [Run.bind_of_error hopen]
        exact .refl _ w
      · rw [Run.bind_of_ok hopen, Run.andFinally_apply]
        generalize hopened : { w with temporary := Table.set room space w.temporary } = opened
        have hworked := p.keepsRooms_exportAndSend room c opened
        generalize (p.exportAndSend room c opened).2 = worked at hworked ⊢
        subst hopened
        constructor
        · calc
            Table.erase room worked.temporary
                = Table.erase room (Table.set room space w.temporary) := hworked.rooms
            _ = Table.erase room w.temporary := Table.erase_set room space _
            _ = w.temporary := Table.erase_of_not_mem hfresh
        · intro names
          exact ((StateStore.KeepsItems.clearMarkers worked.state id).nameFault names).trans
            (hworked.names names)

end PushSetup

/-! ## The end of a push -/

/-- A run after which another one is made, whatever came of the first.  Where the second one
fails, that is what comes of both. -/
def Run.closing (r : Run σ α) (last : Run σ Unit) : Run σ α :=
  ExceptT.mk fun w =>
    match last (r w).2 with
    | (.ok _, v) => ((r w).1, v)
    | (.error f, v) => (.error f, v)

namespace PushSetup

variable (p : PushSetup σ)

/-- The last steps of a push, as runs that may fail: where the markers could not be taken away,
the workspace would stay. -/
def close (id room : Text) : Run σ Unit := do
  unmark id
  modify fun w => { w with temporary := Table.erase room w.temporary }

/-- A push with its last steps as runs that may fail. -/
def pushInSteps (id : Text) : Run σ PushResult := do
  match ← p.accept id with
  | .error result => return result
  | .ok c =>
    let room ← openWorkspace id
    Run.closing (p.exportAndSend room c) (close id room)

theorem close_apply {id : Text} {w : World σ} (hreach : w.state.nameFault? [id] = none)
    (room : Text) : (close id room : Run σ Unit) w = (.ok ⟨⟩, settled id room w) := by
  rw [close, Run.bind_apply, unmark_apply, hreach]
  rfl

variable {p} {id : Text} {w v : World σ} {c c' : Content}

theorem reach_of_start (h : p.start id c w = (.ok (.ok c'), v)) :
    v.state.nameFault? [id] = none := by
  obtain ⟨reason, u, -, hrest⟩ := Run.bind_eq_ok h
  cases reason with
  | some reason =>
      obtain ⟨_, _, -, hdismissed⟩ := Run.bind_eq_ok hrest
      cases hdismissed
  | none =>
      obtain ⟨_, u', hreach, hmarked⟩ := Run.bind_eq_ok hrest
      rw [Run.reach_apply] at hreach
      cases hfault : u.state.nameFault? [id] with
      | some f =>
          rw [hfault] at hreach
          cases hreach
      | none =>
          rw [hfault] at hreach
          cases hreach
          cases hmarked
          exact ((StateStore.KeepsItems.set u.state id _ _).nameFault [id]).trans hfault

/-- The store can be used for an item that was accepted: the item has been marked. -/
theorem reach_of_accept (h : p.accept id w = (.ok (.ok c), v)) :
    v.state.nameFault? [id] = none := by
  rw [accept, Run.bind_of_ok (Run.get_apply w)] at h
  have hrefused : ∀ e : ExportError, ((unmark id >>= fun _ => throw (.error e) :
      Run σ (Except PushResult Content)) w) ≠ (.ok (.ok c), v) := by
    intro e heq
    obtain ⟨_, _, -, hthrown⟩ := Run.bind_eq_ok heq
    cases hthrown
  by_cases hconfigured : w.settings.isApiConfigured = true
  · rw [if_pos hconfigured] at h
    cases hc : KeyTable.get? (.text id) w.contents with
    | some c' =>
        rw [hc] at h
        exact reach_of_start h
    | none =>
        rw [hc] at h
        exact absurd h (hrefused _)
  · rw [if_neg hconfigured] at h
    exact absurd h (hrefused _)

/-- The last steps of a push never fail, so no push ends with its workspace still there. -/
theorem pushInSteps_eq (p : PushSetup σ) (id : Text) (w : World σ) :
    p.pushInSteps id w = p.push id w := by
  rw [pushInSteps, push]
  rcases haccept : p.accept id w with ⟨f | accepted, v⟩
  · rw [Run.bind_of_error haccept, Run.bind_of_error haccept]
  · rw [Run.bind_of_ok haccept, Run.bind_of_ok haccept]
    cases accepted with
    | error result => rfl
    | ok c =>
        dsimp only
        rcases openWorkspace_cases id v with ⟨f, hopen⟩ | ⟨room, space, -, hopen⟩
        · rw [Run.bind_of_error hopen, Run.bind_of_error hopen]
        · rw [Run.bind_of_ok hopen, Run.bind_of_ok hopen, Run.andFinally_apply]
          generalize hopened : { v with temporary := Table.set room space v.temporary } = opened
          have hmarked : v.state.nameFault? [id] = none := reach_of_accept haccept
          have hreach : (p.exportAndSend room c opened).2.state.nameFault? [id] = none := by
            rw [(p.keepsRooms_exportAndSend room c opened).names, ← hopened]
            exact hmarked
          change (match close id room (p.exportAndSend room c opened).2 with
            | (.ok _, u) => ((p.exportAndSend room c opened).1, u)
            | (.error f, u) => (.error f, u)) = _
          rw [close_apply hreach]

end PushSetup

/-! ## Pushes that are performed -/

/-- What a host does that puts nothing of its own into the directory for temporary files: pushes
of any items, queued and not, with schedulers that do the same as soon as they are called, and
anything else that leaves the directory as it is. -/
inductive TidyRun : World σ → World σ → Prop
  | refl (w : World σ) : TidyRun w w
  | other {u v w : World σ} (h : TidyRun u v) (hsame : w.temporary = v.temporary) : TidyRun u w
  | perform {u v : World σ} (h : TidyRun u v) (p : PushSetup σ) (id : Text) (scheduled : Bool)
      (hscheduler : v.isQueueing scheduled = true → ∀ schedule, p.HandsOver schedule id v →
        TidyRun (v.handed id) (schedule id (v.handed id)).2) :
      TidyRun u (p.perform id scheduled v).2

namespace PushSetup

variable {p : PushSetup σ} {schedule : Scheduler σ} {id : Text} {scheduled : Bool} {w : World σ}

theorem temporary_of_pushing (hpushes : w.isQueueing scheduled = false) :
    (p.perform id scheduled w).2.temporary = w.temporary := by
  rw [perform_of_pushing hpushes]
  exact (p.keepsRooms_push id w).rooms

/-- A push that is handed to a scheduler leaves the directory as the scheduler has left it. -/
theorem HandsOver.temporary_eq (h : p.HandsOver schedule id w)
    (hqueues : w.isQueueing scheduled = true) :
    (p.perform id scheduled w).2.temporary = (schedule id (w.handed id)).2.temporary := by
  rw [h.perform_eq hqueues]
  rcases schedule id (w.handed id) with ⟨_ | refusal, v⟩ <;> rfl

/-- A push that is performed leaves no files, as far as the scheduler leaves none. -/
theorem temporary_of_scheduler
    (hscheduler : w.isQueueing scheduled = true → ∀ schedule, p.HandsOver schedule id w →
      (schedule id (w.handed id)).2.temporary = w.temporary) :
    (p.perform id scheduled w).2.temporary = w.temporary := by
  cases hqueues : w.isQueueing scheduled with
  | false => exact temporary_of_pushing hqueues
  | true =>
      by_cases hhands : ∃ schedule, p.HandsOver schedule id w
      · obtain ⟨schedule, hhands⟩ := hhands
        exact (hhands.temporary_eq hqueues).trans (hscheduler hqueues schedule hhands)
      · rw [(perform_of_not_handsOver (not_exists.mp hhands) hqueues).1]

end PushSetup

/-- Pushes leave no files behind, one after the other and inside one another. -/
theorem TidyRun.temporary_eq {v w : World σ} (h : TidyRun w v) : v.temporary = w.temporary := by
  induction h with
  | refl => rfl
  | other _ hsame ih => exact hsame.trans ih
  | perform _ p id scheduled _ ih ihscheduler =>
      refine (PushSetup.temporary_of_scheduler ?_).trans ih
      intro hqueues schedule hhands
      exact ihscheduler hqueues schedule hhands

namespace PushSetup

/-- The directory for temporary files is after a push what it was before.  A push that runs adds
nothing and takes nothing away, with any outcome, and its last steps do not fail before the
workspace is gone.  Nor does a push that is queued change the directory, where it is handed to no
scheduler, or to one that puts nothing of its own there; and in any case what is different is what
the scheduler has done. -/
structure LeavesNoFiles (p : PushSetup σ) (id : Text) (scheduled : Bool) (w : World σ) :
    Prop where
  pushed : w.isQueueing scheduled = false →
    (p.perform id scheduled w).2.temporary = w.temporary
  closed : p.pushInSteps id w = p.push id w
  unhanded : (∀ schedule, ¬p.HandsOver schedule id w) →
    (p.perform id scheduled w).2.temporary = w.temporary
  handed : w.isQueueing scheduled = true → ∀ schedule, p.HandsOver schedule id w →
    (p.perform id scheduled w).2.temporary = (schedule id (w.handed id)).2.temporary
  tidy : (w.isQueueing scheduled = true → ∀ schedule, p.HandsOver schedule id w →
      TidyRun (w.handed id) (schedule id (w.handed id)).2) →
    (p.perform id scheduled w).2.temporary = w.temporary

/-- Queues nothing for later: the item is pushed as soon as it is handed over. -/
def pushAtOnce : Scheduler Rehearsal := fun id w =>
  (none, ((ofApi Rehearsal.api).perform id true w).2)

theorem tidyRun_pushAtOnce (id : Text) (w : World Rehearsal) : TidyRun w (pushAtOnce id w).2 := by
  refine .perform (.refl w) (ofApi Rehearsal.api) id true ?_
  intro _ schedule hhands
  cases hhands.scheduler

/-- A host whose scheduler pushes every item at once. -/
def promptHost : PushSetup Rehearsal :=
  { ofApi Rehearsal.api with scheduler := some pushAtOnce }

/-- The world of such a host, with an item, and with a workspace of it that is open already. -/
def sharedWorld : World Rehearsal :=
  { World.fresh (.ofAccount true) (.ofList [.blank "1"]) Rehearsal.initial with
    temporary := [(("article-1-0" : Text), ⟨true, none⟩)] }

end PushSetup

end ArticleExport
