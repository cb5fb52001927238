import ArticleExport.Proofs.Push.Performance
import ArticleExport.Publish.Rehearsal

/-!
# The markers after a push

A push is meant to take the markers of its item away however it ends.  It does so
but for two ways to end.  A push that gives up before it has told whether the item
is skipped, or on a store that cannot be used for the item, leaves the markers that
it has found.  A push that marks its item and then cannot open a workspace leaves
the item marked as under way.

`PushSetup.isMarked_perform_iff` says that these are the only ways.
-/

namespace ArticleExport

variable {σ : Type}

namespace StateStore

/-- Whether an item has one of its markers. -/
def isMarked (s : StateStore) (id : Text) : Bool := s.isPending id || s.isInProgress id

@[simp] theorem isMarked_clearMarkers (s : StateStore) (id : Text) :
    (s.clearMarkers id).isMarked id = false := by
  rw [isMarked, isPending, isInProgress, get_clearMarkers, get_clearMarkers,
    if_pos ⟨rfl, .inl rfl⟩, if_pos ⟨rfl, .inr rfl⟩]
  rfl

theorem isTruthy_stamp (s : StateStore) : (Json.str s.stamp).isTruthy = true := by
  rw [stamp]
  cases s.now.truncate with
  | ofNat n => simp [Text.ofInt, Text.ofNat, Json.isTruthy]
  | negSucc n => rfl

@[simp] theorem isMarked_markInProgress (s : StateStore) (id : Text) :
    (s.markInProgress id).isMarked id = true := by
  have hmarked : (s.markInProgress id).isInProgress id = true := by
    rw [isInProgress, markInProgress, get_set, if_pos ⟨rfl, rfl⟩]
    exact isTruthy_stamp s
  rw [isMarked, hmarked, Bool.or_true]

end StateStore

namespace PushSetup

/-- A push of the item gives up before it would touch the markers: the store cannot
be used for the item, or it cannot be told whether the item is skipped. -/
def GivesUp (p : PushSetup σ) (id : Text) (w : World σ) : Prop :=
  w.state.nameFault? [id] ≠ none ∨
    ∃ c f, w.settings.isApiConfigured = true ∧ w.content? id = some c ∧
      p.verdict w.settings c = .error f

/-- A push of the item gets as far as marking it. -/
def Accepts (p : PushSetup σ) (id : Text) (w : World σ) : Prop :=
  w.state.nameFault? [id] = none ∧ w.settings.isApiConfigured = true ∧
    ∃ c, w.content? id = some c ∧ p.verdict w.settings c = .ok none

variable {p : PushSetup σ} {id : Text} {scheduled : Bool} {w : World σ}
  {calls : List ServiceCall} {change : StateStore → StateStore} {o : Except Failure PushResult}

theorem Accepts.not_givesUp (h : p.Accepts id w) : ¬p.GivesUp id w := by
  obtain ⟨hreach, -, c, hc, hverdict⟩ := h
  rintro (hunreach | ⟨c', f, -, hc', hverdict'⟩)
  · exact hunreach hreach
  · rw [hc] at hc'
    cases hc'
    rw [hverdict] at hverdict'
    cases hverdict'

/-- What accepting an item does to its markers. -/
theorem Accepting.isMarked_iff
    {change : StateStore → StateStore} {o : Except Failure (Except PushResult Content)}
    (h : p.Accepting id w change o) :
    (change w.state).isMarked id = true ↔
      (w.state.isMarked id = true ∧ p.GivesUp id w) ∨ p.Accepts id w := by
  cases h with
  | unreachable hreach =>
      have hgivesUp : p.GivesUp id w := .inl (by simp [hreach])
      have haccepts : ¬p.Accepts id w := fun h => h.not_givesUp hgivesUp
      simp [hgivesUp, haccepts]
  | undecided hconfigured hc hverdict =>
      have hgivesUp : p.GivesUp id w := .inr ⟨_, _, hconfigured, hc, hverdict⟩
      have haccepts : ¬p.Accepts id w := fun h => h.not_givesUp hgivesUp
      simp [hgivesUp, haccepts]
  | refused e hreach hrefused =>
      rcases hrefused with hconfigured | hc
      · simp [GivesUp, Accepts, hreach, hconfigured]
      · simp [GivesUp, Accepts, hreach, hc]
  | skipped hreach hconfigured hc hverdict =>
      simp [GivesUp, Accepts, hreach, hconfigured, hc, hverdict]
  | accepted hreach hconfigured hc hverdict =>
      have haccepts : p.Accepts id w := ⟨hreach, hconfigured, _, hc, hverdict⟩
      simp [haccepts]

theorem Accepting.accepts_iff
    {change : StateStore → StateStore} {o : Except Failure (Except PushResult Content)}
    (h : p.Accepting id w change o) : p.Accepts id w ↔ ∃ c, o = .ok (.ok c) := by
  cases h with
  | unreachable hreach => simp [Accepts, hreach]
  | undecided hconfigured hc hverdict => simp [Accepts, hc, hverdict]
  | refused e hreach hrefused =>
      rcases hrefused with hconfigured | hc
      · simp [Accepts, hconfigured]
      · simp [Accepts, hc]
  | skipped hreach hconfigured hc hverdict => simp [Accepts, hc, hverdict]
  | accepted hreach hconfigured hc hverdict => simp [Accepts, hreach, hconfigured, hc, hverdict]

/-- What a push does to the markers of its item. -/
theorem Course.isMarked_iff
    (h : p.Course id w calls change o) :
    (change w.state).isMarked id = true ↔
      (w.state.isMarked id = true ∧ p.GivesUp id w) ∨
        (p.Accepts id w ∧ ∃ f, Workspace.create [] id = .error f) := by
  cases h with
  | unaccepted haccept =>
      have haccepts : ¬p.Accepts id w := by simp [haccept.accepts_iff]
      rw [haccept.isMarked_iff]
      simp [haccepts]
  | dismissed haccept =>
      have haccepts : ¬p.Accepts id w := by simp [haccept.accepts_iff]
      rw [haccept.isMarked_iff]
      simp [haccepts]
  | noRoom haccept hroom =>
      have haccepts : p.Accepts id w := haccept.accepts_iff.mpr ⟨_, rfl⟩
      rw [haccept.isMarked_iff]
      simp [haccepts, hroom]
  | ran haccept hroom _ =>
      have haccepts : p.Accepts id w := haccept.accepts_iff.mpr ⟨_, rfl⟩
      simp [haccepts.not_givesUp, hroom]

/-- After a push that is not queued its item has a marker in two cases only: the push
has given up, and the marker was there before; or no workspace could be opened. -/
theorem isMarked_perform_iff
    (p : PushSetup σ) (id : Text) (h : w.isQueueing scheduled = false) :
    (p.perform id scheduled w).2.state.isMarked id = true ↔
      (w.state.isMarked id = true ∧ p.GivesUp id w) ∨
        (p.Accepts id w ∧ ∃ f, Workspace.create [] id = .error f) := by
  obtain ⟨change, o, hcourse, -, hstate⟩ := perform_course p id h
  rw [hstate]
  exact hcourse.isMarked_iff

/-- An item that the host vetoes loses the marker that it had. -/
theorem not_isMarked_of_veto :
    (({ ofApi Rehearsal.api with shouldSkip := some fun _ => true } :
      PushSetup Rehearsal).perform "1" true
        ((World.fresh (.ofAccount false) (.ofList [.blank "1"]) Rehearsal.initial).handed "1")
      ).2.state.isMarked "1" = false := by
  rw [← Bool.not_eq_true, isMarked_perform_iff _ "1" rfl]
  rintro (⟨-, hreach | ⟨c, f, -, hc, hverdict⟩⟩ | ⟨-, f, hroom⟩)
  · exact hreach rfl
  · cases hc
    cases hverdict
  · have hopened : Workspace.create [] "1" = .ok ⟨true, none⟩ := rfl
    rw [hopened] at hroom
    cases hroom

/-- An item whose identifier has a slash stays marked as under way. -/
theorem isMarked_of_slash :
    ((ofApi Rehearsal.api).perform "a/b" false
      (.fresh (.ofAccount false) (.ofList [.blank "a/b"]) .initial)).2.state.isMarked "a/b" =
        true := by
  decide

end PushSetup

end ArticleExport
