import ArticleExport.Proofs.Article.Ledger
import ArticleExport.Proofs.Walk.Yields

/-!
# Walks over joined content

A ledger is tidy if it stays what it is when it is entered behind nothing: it has no name twice.
What a walk enters is tidy.  So the walk over two lists of nodes that are joined is, with its
entries, the walk over the first one and then that over the second one.
-/

namespace ArticleExport

/-! ## Tidy ledgers -/

/-- A ledger that stays what it is when it is entered behind nothing. -/
def Ledger.IsTidy (l : Ledger) : Prop := empty.merge l = l

theorem Ledger.IsTidy.merge {l : Ledger} (h : l.IsTidy) (m : Ledger) : (l.merge m).IsTidy := by
  rw [IsTidy, ← merge_assoc, h]

theorem Ledger.isTidy_ofBundle (address : Text) : (ofBundle address).IsTidy := by
  by_cases hempty : address.isEmpty
  · simp [IsTidy, Ledger.merge, ofBundle, addBundle, hempty, empty]
  · simp [IsTidy, Ledger.merge, ofBundle, addBundle, hempty, empty]

theorem Step.isTidy_of_run {theme : Theme} {c d : Component} {step : Step} {entered : Ledger}
    (h : step.run theme c = .ok (d, entered)) :
    entered.IsTidy := by
  rcases Step.entered_of_run h with
    rfl | ⟨name, style, rfl⟩ | ⟨name, layout, rfl⟩ | ⟨name, style, rfl⟩ | ⟨address, -, rfl⟩
  · rfl
  · rfl
  · rfl
  · rfl
  · exact Ledger.isTidy_ofBundle address

theorem Making.isTidy_steps (theme : Theme) (c : Component) (steps : List Step) :
    (Making.steps theme c steps).ledger.IsTidy := by
  cases steps with
  | nil => rfl
  | cons step steps =>
      rw [Making.steps]
      split
      · rename_i d entered hrun
        exact (Step.isTidy_of_run hrun).merge _
      · rfl

namespace Work

variable {α β γ : Type}

theorem isTidy_andThen {w : Work α} (h : w.ledger.IsTidy) (k : α → Work β) :
    (w.andThen k).ledger.IsTidy := by
  cases hw : w.result with
  | error f =>
      rw [andThen_of_error hw]
      exact h
  | ok a =>
      rw [andThen_of_ok hw]
      exact h.merge _

theorem andThen_assoc (w : Work α) (k : α → Work β) (k' : β → Work γ) :
    (w.andThen k).andThen k' = w.andThen fun a => (k a).andThen k' := by
  obtain ⟨l, x⟩ := w
  cases x with
  | error f => rfl
  | ok a =>
      cases hk : (k a).result with
      | error f => simp only [andThen, hk]
      | ok b => simp only [andThen, hk, Ledger.merge_assoc]

theorem done_andThen {a : α} {k : α → Work β} (h : (k a).ledger.IsTidy) :
    (done a).andThen k = k a :=
  congrArg (fun l => (⟨l, (k a).result⟩ : Work β)) h

theorem andThen_done (w : Work α) : (w.andThen fun a => done a) = w := by
  obtain ⟨l, x⟩ := w
  cases x with
  | error f => rfl
  | ok a => exact congrArg (fun m => (⟨m, .ok a⟩ : Work α)) (Ledger.merge_empty l)

end Work

/-! ## Walks -/

namespace Setup

variable (s : Setup)

theorem isTidy_make (c : Component) {w : Work (List Component)} (h : w.ledger.IsTidy) :
    (c.make s w).ledger.IsTidy := by
  by_cases hparent : c.variant.isParent
  · by_cases hfactory : s.factory.isNone
    · rw [make_of_no_factory hparent hfactory]
      rfl
    · cases hw : w.result with
      | error f =>
          rw [make_of_error hparent hfactory hw]
          exact h
      | ok parts =>
          rw [make_of_ok hparent hfactory hw]
          exact h.merge _
  · rw [make_of_not_isParent hparent]
    exact Making.isTidy_steps _ _ _

theorem isTidy_buildPlain (v : Variant) (n : Node) : (s.buildPlain v n).ledger.IsTidy :=
  Work.isTidy_andThen (s.isTidy_make (s.create v n) (w := .done []) rfl) _

mutual

/-- What a walk enters has no name twice. -/
theorem isTidy_walk : ∀ n : Node, (s.walk n).ledger.IsTidy
  | ⟨tag, attributes, children, text, claimed⟩ => by
      have hchildren := isTidy_walkAll children
      rw [walk]
      split
      · split
        · exact s.isTidy_buildPlain _ _
        · rfl
      · split
        · split
          · exact Work.isTidy_andThen (s.isTidy_make _ hchildren) _
          · exact s.isTidy_buildPlain _ _
        · split
          · rfl
          · split
            · exact s.isTidy_buildPlain _ _
            · exact hchildren

theorem isTidy_walkAll : ∀ ns : List Node, (s.walkAll ns).ledger.IsTidy
  | [] => rfl
  | n :: ns => by
      rw [walkAll]
      exact Work.isTidy_andThen (isTidy_walk n) _

end

/-- A walk over joined lists of nodes goes over the first one and then over the second one. -/
theorem walkAll_append (xs ys : List Node) :
    s.walkAll (xs ++ ys) =
      (s.walkAll xs).andThen fun cs => (s.walkAll ys).andThen fun ds => .done (cs ++ ds) := by
  -- The entries of the second walk are tidy, so it may be begun with nothing entered.
  have hbegun (cs : List Component) :
      ((Work.done cs).andThen fun cs => (s.walkAll ys).andThen fun ds => .done (cs ++ ds)) =
        (s.walkAll ys).andThen fun ds => .done (cs ++ ds) :=
    Work.done_andThen (Work.isTidy_andThen (s.isTidy_walkAll ys) _)
  induction xs with
  | nil =>
      rw [List.nil_append, walkAll, hbegun]
      exact (Work.andThen_done _).symm
  | cons x xs ih =>
      rw [List.cons_append, walkAll, walkAll, ih, Work.andThen_assoc]
      congr 1
      funext cs
      rw [Work.andThen_assoc, Work.andThen_assoc]
      congr 1
      funext ds
      rw [Work.andThen_assoc, hbegun]
      congr 1
      funext es
      rw [List.append_assoc]
      rfl

end Setup

end ArticleExport
