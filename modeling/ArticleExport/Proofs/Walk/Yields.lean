import ArticleExport.Component.Walk
import ArticleExport.Proofs.Component.Steps

/-!
# What a walk yields

A walk over content that comes to its end has made components and entries.  How it
has made them is said here once, node by node: a relation with one case for each
thing that can become of a node.  What holds of all exports is shown by induction
on it.
-/

namespace ArticleExport

theorem Work.andThen_of_ok {α β : Type} {w : Work α} {l : α → Work β} {a : α}
    (h : w.result = .ok a) :
    w.andThen l = ⟨w.ledger.merge (l a).ledger, (l a).result⟩ := by
  rw [Work.andThen, h]

theorem Work.andThen_of_error {α β : Type} {w : Work α} {l : α → Work β} {f : Failure}
    (h : w.result = .error f) :
    w.andThen l = ⟨w.ledger, .error f⟩ := by
  rw [Work.andThen, h]

theorem Work.andThen_result_eq_ok {α β : Type} {w : Work α} {f : α → Work β} {b : β}
    (h : (w.andThen f).result = .ok b) :
    ∃ a, w.result = .ok a ∧ (f a).result = .ok b ∧
      (w.andThen f).ledger = w.ledger.merge (f a).ledger := by
  cases hw : w.result with
  | error e =>
      rw [andThen_of_error hw] at h
      cases h
  | ok a =>
      rw [andThen_of_ok hw] at h ⊢
      exact ⟨a, rfl, h, rfl⟩

namespace Setup

variable {s : Setup}

/-- What comes of the steps of a component without a shared context. -/
def finish (s : Setup) (c : Component) (parts : List Json) : Making :=
  let m := Making.steps s.theme c (c.recipe s.settings s.theme parts)
  { m with
    component := if m.failure.isNone then { m.component with stage := .built } else m.component }

theorem make_of_not_isParent {c : Component} (h : ¬c.variant.isParent) (w : Work (List Component)) :
    c.make s w = s.finish c [] :=
  if_neg h

theorem make_of_no_factory
    {c : Component} (h : c.variant.isParent) (hfactory : s.factory.isNone)
    (w : Work (List Component)) :
    c.make s w = ⟨c, .empty, some noFactory⟩ :=
  (if_pos h).trans (if_pos hfactory)

theorem make_of_error
    {c : Component} (h : c.variant.isParent) (hfactory : ¬s.factory.isNone)
    {w : Work (List Component)} {f : Failure} (hw : w.result = .error f) :
    c.make s w = ⟨c, w.ledger, some f⟩ := by
  rw [Component.make, if_pos h, if_neg hfactory, hw]

theorem make_of_ok
    {c : Component} (h : c.variant.isParent) (hfactory : ¬s.factory.isNone)
    {w : Work (List Component)} {parts : List Component} (hw : w.result = .ok parts) :
    c.make s w =
      let m := s.finish { c with parts := parts.map fun p => p.variant.kind }
        (parts.map Component.fragment)
      { m with ledger := w.ledger.merge m.ledger } := by
  rw [Component.make, if_pos h, if_neg hfactory, hw]
  rfl

theorem of_match?_eq_some {n m : Node} {v : Variant} (h : s.match? n = some (v, m)) :
    v ∈ s.variants ∧ v.kind.match? s.settings n = some m := by
  obtain ⟨w, hw, hmatch⟩ := List.exists_of_findSome?_eq_some h
  obtain ⟨k, hk, heq⟩ := Option.map_eq_some_iff.mp hmatch
  obtain ⟨rfl, rfl⟩ := Prod.mk.inj heq
  exact ⟨hw, hk⟩

/-- A variant makes a finished component of a node and the components inside it. -/
def Builds (s : Setup) (v : Variant) (n : Node) (parts : List Component) (c : Component)
    (entered : Ledger) : Prop :=
  s.finish { s.create v n with parts := parts.map fun p => p.variant.kind }
    (parts.map Component.fragment) = ⟨c, entered, none⟩

/-- The components that nodes become, and what is entered for them. -/
inductive Yields (s : Setup) : List Node → List Component → Ledger → Prop
  | nil : Yields s [] [] .empty
  | cons {n : Node} {ns : List Node} {cs ds : List Component} {l m : Ledger}
      (first : Yields s [n] cs l) (rest : Yields s ns ds m) :
      Yields s (n :: ns) (cs ++ ds) (l.merge m)
  | blank {n : Node} (isText : n.isText)
      (dropped : ¬(n.hasVisibleText ∧ s.keepsLooseText)) :
      Yields s [n] [] .empty
  | loose {n : Node} {c : Component} {l : Ledger} (visible : n.hasVisibleText)
      (inText : n.isText ∨ s.match? n = none ∧ inlineTags.contains n.tag)
      (builds : s.Builds .body (.element "p" [] [n]) [] c l) :
      Yields s [n] [c] l
  | unsupported {n : Node} (isElement : ¬n.isText) (unmatched : s.match? n = none)
      (tag : unsupportedTags.contains n.tag) :
      Yields s [n] [] (.ofIssue n.tag)
  | inside {n : Node} {cs : List Component} {l : Ledger} (isElement : ¬n.isText)
      (unmatched : s.match? n = none) (supported : ¬unsupportedTags.contains n.tag)
      (notInText : ¬((inlineTags.contains n.tag ∧ n.hasVisibleText) ∧ s.keepsLooseText))
      (children : Yields s n.children cs l) :
      Yields s [n] cs l
  | plain {n m : Node} {v : Variant} {c : Component} {l : Ledger} (isElement : ¬n.isText)
      (matched : s.match? n = some (v, m)) (isPlain : ¬v.isParent) (builds : s.Builds v m [] c l) :
      Yields s [n] [c] l
  | parent {n m : Node} {v : Variant} {cs : List Component} {c : Component} {l k : Ledger}
      (isElement : ¬n.isText) (matched : s.match? n = some (v, m)) (isParent : v.isParent)
      (children : Yields s n.children cs l) (builds : s.Builds v m cs c k) :
      Yields s [n] [c] (l.merge k)

theorem finish_of_toWork
    {m : Making} {c : Component} (h : m.toWork.result = .ok c) :
    m = ⟨c, m.ledger, none⟩ := by
  obtain ⟨component, ledger, failure⟩ := m
  cases failure with
  | some f => cases h
  | none =>
      obtain rfl := Except.ok.inj h
      rfl

/-- What is made without components inside yields its component alone. -/
theorem yields_singleton
    {n : Node} {m : Making} {cs : List Component}
    (hyields : ∀ c l, m = ⟨c, l, none⟩ → s.Yields [n] [c] l)
    (h : (m.toWork.andThen fun c => .done [c]).result = .ok cs) :
    s.Yields [n] cs (m.toWork.andThen fun c => .done [c]).ledger := by
  obtain ⟨c, hmade, hdone, hledger⟩ := Work.andThen_result_eq_ok h
  obtain rfl := Except.ok.inj hdone
  have hm := finish_of_toWork hmade
  rw [hledger]
  refine hyields c _ (hm.trans ?_)
  rw [show (Work.done [c]).ledger = Ledger.empty from rfl, Ledger.merge_empty]
  rfl

theorem yields_of_buildPlain
    {n m : Node} {v : Variant} {cs : List Component} (hplain : ¬v.isParent)
    (hyields : ∀ c l, s.Builds v m [] c l → s.Yields [n] [c] l)
    (h : (s.buildPlain v m).result = .ok cs) :
    s.Yields [n] cs (s.buildPlain v m).ledger := by
  refine yields_singleton (fun c l hmade => hyields c l ?_) h
  rw [make_of_not_isParent (c := s.create v m) hplain] at hmade
  exact hmade

theorem yields_of_buildLoose
    {n : Node} {cs : List Component} (hvisible : n.hasVisibleText)
    (hwhy : n.isText ∨ s.match? n = none ∧ inlineTags.contains n.tag)
    (h : (s.buildLoose n).result = .ok cs) :
    s.Yields [n] cs (s.buildLoose n).ledger :=
  yields_of_buildPlain (by decide) (fun _ _ hbuilds => .loose hvisible hwhy hbuilds) h

theorem yields_of_parent
    {n m : Node} {v : Variant} {w : Work (List Component)} {cs : List Component}
    (hparent : v.isParent) (helement : ¬n.isText) (hmatch : s.match? n = some (v, m))
    (hchildren : ∀ parts, w.result = .ok parts → s.Yields n.children parts w.ledger)
    (h : ((((s.create v m).make s w).toWork).andThen fun c => .done [c]).result = .ok cs) :
    s.Yields [n] cs ((((s.create v m).make s w).toWork).andThen fun c => .done [c]).ledger := by
  refine yields_singleton (fun c l hmade => ?_) h
  by_cases hfactory : s.factory.isNone
  · rw [make_of_no_factory (c := s.create v m) hparent hfactory] at hmade
    cases hmade
  · cases hw : w.result with
    | error f =>
        rw [make_of_error (c := s.create v m) hparent hfactory hw] at hmade
        cases hmade
    | ok parts =>
        rw [make_of_ok (c := s.create v m) hparent hfactory hw] at hmade
        obtain ⟨hcomponent, hledger, hfailure⟩ := Making.mk.inj hmade
        rw [← hledger]
        refine .parent helement hmatch hparent (hchildren parts hw) ?_
        rw [Builds, ← hcomponent, ← hfailure]

mutual

theorem yields_of_walk :
    ∀ (n : Node) {cs : List Component}, (s.walk n).result = .ok cs →
      s.Yields [n] cs (s.walk n).ledger
  | ⟨tag, attributes, children, text, claimed⟩, cs => by
      have hchildren {ds : List Component} (h : (s.walkAll children).result = .ok ds) :
          s.Yields children ds (s.walkAll children).ledger :=
        yields_of_walkAll children h
      intro h
      rw [walk] at h ⊢
      by_cases htext : Node.isText ⟨tag, attributes, children, text, claimed⟩
      · simp only [if_pos htext] at h ⊢
        by_cases hkept : (Node.hasVisibleText ⟨tag, attributes, children, text, claimed⟩ &&
            s.keepsLooseText) = true
        · rw [if_pos hkept] at h ⊢
          exact yields_of_buildLoose ((Bool.and_eq_true _ _).mp hkept).1 (.inl htext) h
        · rw [if_neg hkept] at h ⊢
          obtain rfl := Except.ok.inj h
          exact .blank htext fun hboth => hkept ((Bool.and_eq_true _ _).mpr hboth)
      · simp only [if_neg htext] at h ⊢
        cases hmatch : s.match? ⟨tag, attributes, children, text, claimed⟩ with
        | some found =>
            obtain ⟨v, m⟩ := found
            simp only [hmatch] at h ⊢
            by_cases hparent : v.isParent
            · rw [if_pos hparent] at h ⊢
              exact yields_of_parent hparent htext hmatch (fun parts hparts => hchildren hparts) h
            · rw [if_neg hparent] at h ⊢
              exact yields_of_buildPlain hparent
                (fun c l hbuilds => .plain htext hmatch hparent hbuilds) h
        | none =>
            simp only [hmatch] at h ⊢
            by_cases hunsupported : unsupportedTags.contains tag = true
            · rw [if_pos hunsupported] at h ⊢
              obtain rfl := Except.ok.inj h
              exact .unsupported htext hmatch hunsupported
            · rw [if_neg hunsupported] at h ⊢
              by_cases hinText : (inlineTags.contains tag &&
                  Node.hasVisibleText ⟨tag, attributes, children, text, claimed⟩ &&
                  s.keepsLooseText) = true
              · rw [if_pos hinText] at h ⊢
                have hboth := (Bool.and_eq_true _ _).mp ((Bool.and_eq_true _ _).mp hinText).1
                exact yields_of_buildLoose hboth.2 (.inr ⟨hmatch, hboth.1⟩) h
              · rw [if_neg hinText] at h ⊢
                refine .inside htext hmatch hunsupported ?_ (hchildren h)
                rw [← Bool.and_eq_true, ← Bool.and_eq_true]
                exact hinText

theorem yields_of_walkAll :
    ∀ (ns : List Node) {cs : List Component}, (s.walkAll ns).result = .ok cs →
      s.Yields ns cs (s.walkAll ns).ledger
  | [], cs => by
      intro h
      obtain rfl := Except.ok.inj h
      exact .nil
  | n :: ns, cs => by
      intro h
      rw [walkAll] at h ⊢
      obtain ⟨first, hfirst, hthen, hledger⟩ := Work.andThen_result_eq_ok h
      obtain ⟨rest, hrest, hdone, hledger'⟩ := Work.andThen_result_eq_ok hthen
      obtain rfl := Except.ok.inj hdone
      have hone := yields_of_walk n hfirst
      have hall := yields_of_walkAll ns hrest
      rw [hledger, hledger']
      rw [show (Work.done (first ++ rest)).ledger = Ledger.empty from rfl, Ledger.merge_empty]
      exact .cons hone hall

end

end Setup

end ArticleExport
