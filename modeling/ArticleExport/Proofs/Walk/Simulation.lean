import ArticleExport.Proofs.Walk.Yields
import Mathlib.Data.List.Forall2

/-!
# Two walks side by side

Two setups that take the same nodes make components and entries that correspond, as soon
as they do so for every single component.  What corresponds is a relation between the
components and entries of the one walk and those of the other, which has to be kept where
walks are put together.  Failures of the first walk are failures of the second one, unless
the second one may do without.
-/

namespace ArticleExport

/-! ## Results and work -/

/-- Two results correspond: both are there and related, or both failed alike.  Where it is not
`strict`, anything corresponds to a failure. -/
inductive ResultsAlike {ε α β : Type} (strict : Prop) (R : α → β → Prop) :
    Except ε α → Except ε β → Prop
  | ok {a : α} {b : β} (related : R a b) : ResultsAlike strict R (.ok a) (.ok b)
  | error (f : ε) : ResultsAlike strict R (.error f) (.error f)
  | failed (lax : ¬strict) (f : ε) (y : Except ε β) : ResultsAlike strict R (.error f) y

namespace ResultsAlike

variable {ε α β γ δ : Type} {strict : Prop} {R : α → β → Prop} {S : γ → δ → Prop}
  {x : Except ε α} {y : Except ε β}

theorem of_eq {R : α → α → Prop} (hrefl : ∀ a, R a a) {x y : Except ε α} (h : x = y) :
    ResultsAlike strict R x y := by
  subst h
  cases x with
  | error f => exact .error f
  | ok a => exact .ok (hrefl a)

/-- Results that correspond by being the same are the same, where failures are compared too. -/
theorem eq {x y : Except ε α} (h : ResultsAlike True Eq x y) : x = y := by
  cases h with
  | ok hsame => exact congrArg Except.ok hsame
  | error f => rfl
  | failed hlax => exact (hlax trivial).elim

theorem exists_of_eq_ok (h : ResultsAlike strict R x y) {a : α} (hx : x = .ok a) :
    ∃ b, y = .ok b ∧ R a b := by
  subst hx
  cases h with
  | ok hrelated => exact ⟨_, rfl, hrelated⟩

theorem bind (h : ResultsAlike strict R x y) {k : α → Except ε γ} {k' : β → Except ε δ}
    (hk : ∀ {a b}, R a b → ResultsAlike strict S (k a) (k' b)) :
    ResultsAlike strict S (x.bind k) (y.bind k') := by
  cases h with
  | ok hrelated => exact hk hrelated
  | error f => exact .error f
  | failed hlax f y => exact .failed hlax f _

theorem map (h : ResultsAlike strict R x y) {f : α → γ} {g : β → δ}
    (hfg : ∀ {a b}, R a b → S (f a) (g b)) :
    ResultsAlike strict S (x.map f) (y.map g) := by
  cases h with
  | ok hrelated => exact .ok (hfg hrelated)
  | error f => exact .error f
  | failed hlax f y => exact .failed hlax f _

theorem mapError (h : ResultsAlike strict R x y) {ε' : Type} (f : ε → ε') :
    ResultsAlike strict R (x.mapError f) (y.mapError f) := by
  cases h with
  | ok hrelated => exact .ok hrelated
  | error e => exact .error (f e)
  | failed hlax e y => exact .failed hlax (f e) _

theorem mono {S : α → β → Prop} (h : ResultsAlike strict R x y) (hmono : ∀ {a b}, R a b → S a b) :
    ResultsAlike strict S x y := by
  cases h with
  | ok hrelated => exact .ok (hmono hrelated)
  | error f => exact .error f
  | failed hlax f y => exact .failed hlax f y

theorem foldlM {ι : Type} {step : α → ι → Except ε α} {step' : β → ι → Except ε β}
    (hstep : ∀ {a b} i, R a b → ResultsAlike strict R (step a i) (step' b i)) (indices : List ι)
    {a : α} {b : β} (h : R a b) :
    ResultsAlike strict R (indices.foldlM step a) (indices.foldlM step' b) := by
  induction indices generalizing a b with
  | nil => exact .ok h
  | cons i indices ih => exact (hstep i h).bind ih

end ResultsAlike

namespace Work

variable {α β γ δ : Type} {strict : Prop}

/-- Two pieces of work correspond: their results and entries do, unless both failed alike. -/
def Alike (strict : Prop) (R : α → Ledger → β → Ledger → Prop) (w : Work α) (w' : Work β) : Prop :=
  ResultsAlike strict (fun a b => R a w.ledger b w'.ledger) w.result w'.result

theorem Alike.andThen
    {R : α → Ledger → β → Ledger → Prop} {S : γ → Ledger → δ → Ledger → Prop} {w : Work α}
    {w' : Work β} {k : α → Work γ} {k' : β → Work δ} (h : w.Alike strict R w')
    (hk : ∀ {a l b m}, R a l b m →
      (k a).Alike strict (fun c n d o => S c (l.merge n) d (m.merge o)) (k' b)) :
    (w.andThen k).Alike strict S (w'.andThen k') := by
  obtain ⟨l, x⟩ := w
  obtain ⟨m, y⟩ := w'
  change ResultsAlike strict (fun a b => R a l b m) x y at h
  cases h with
  | ok hrelated => exact hk hrelated
  | error f => exact .error f
  | failed hlax f y => exact .failed hlax f _

theorem Alike.mono
    {R S : α → Ledger → β → Ledger → Prop} {w : Work α} {w' : Work β} (h : w.Alike strict R w')
    (hmono : ∀ {a l b m}, R a l b m → S a l b m) :
    w.Alike strict S w' :=
  ResultsAlike.mono h hmono

end Work

/-! ## Setups -/

namespace Setup

/-- What a variant makes of a node and the components inside it. -/
def enclose (s : Setup) (v : Variant) (n : Node) (parts : List Component) : Making :=
  s.finish { s.create v n with parts := parts.map fun p => p.variant.kind }
    (parts.map Component.fragment)

section

variable {strict : Prop} {R : List Component → Ledger → List Component → Ledger → Prop}
  {s s' : Setup}

theorem alike_singleton {m m' : Making}
    (h : m.toWork.Alike strict (fun c l d m => R [c] l [d] m) m'.toWork) :
    (m.toWork.andThen fun c => .done [c]).Alike strict R (m'.toWork.andThen fun d => .done [d]) := by
  refine h.andThen ?_
  intro c l d m hrelated
  refine .ok ?_
  change R [c] (l.merge .empty) [d] (m.merge .empty)
  rw [Ledger.merge_empty, Ledger.merge_empty]
  exact hrelated

/-- Components that are made around others correspond if they do so whatever corresponds inside. -/
theorem alike_make_of_enclose
    {v : Variant} (hparent : v.isParent) (hfactory : s.factory.isNone = s'.factory.isNone)
    {T : Component → Ledger → Component → Ledger → Prop} {n n' : Node}
    (henclose : ∀ {cs l ds m}, R cs l ds m →
      (s.enclose v n cs).toWork.Alike strict (fun c k d o => T c (l.merge k) d (m.merge o))
        (s'.enclose v n' ds).toWork)
    {w w' : Work (List Component)} (hcontent : w.Alike strict R w') :
    ((s.create v n).make s w).toWork.Alike strict T ((s'.create v n').make s' w').toWork := by
  by_cases hnone : s.factory.isNone
  · rw [make_of_no_factory (c := s.create v n) hparent hnone,
      make_of_no_factory (c := s'.create v n') hparent (hfactory ▸ hnone)]
    exact .error noFactory
  have hnone' : ¬s'.factory.isNone := hfactory ▸ hnone
  obtain ⟨l, x⟩ := w
  obtain ⟨m, y⟩ := w'
  change ResultsAlike strict (fun cs ds => R cs l ds m) x y at hcontent
  cases hcontent with
  | error f =>
      rw [make_of_error (c := s.create v n) hparent hnone rfl,
        make_of_error (c := s'.create v n') hparent hnone' rfl]
      exact .error f
  | failed hlax f y =>
      rw [make_of_error (c := s.create v n) hparent hnone rfl]
      exact .failed hlax f _
  | ok hrelated =>
      rw [make_of_ok (c := s.create v n) hparent hnone rfl,
        make_of_ok (c := s'.create v n') hparent hnone' rfl]
      exact henclose hrelated

/-- Walks over nodes correspond if they do so for the first node and for the others. -/
theorem alike_walkAll_cons
    (happend : ∀ {cs l ds m cs' l' ds' m'}, R cs l ds m → R cs' l' ds' m' →
      R (cs ++ cs') (l.merge l') (ds ++ ds') (m.merge m'))
    {n n' : Node} {ns ns' : List Node} (hone : (s.walk n).Alike strict R (s'.walk n'))
    (hall : (s.walkAll ns).Alike strict R (s'.walkAll ns')) :
    (s.walkAll (n :: ns)).Alike strict R (s'.walkAll (n' :: ns')) := by
  rw [walkAll, walkAll]
  refine hone.andThen ?_
  intro cs l ds m hfirst
  refine hall.andThen ?_
  intro cs' l' ds' m' hrest
  refine .ok ?_
  change R _ (l.merge (l'.merge .empty)) _ (m.merge (m'.merge .empty))
  rw [Ledger.merge_empty, Ledger.merge_empty]
  exact happend hfirst hrest

end

/-- Two setups that take the same nodes, and a relation between what they make: it holds of
nothing and of an issue, it is kept by putting lists behind one another, and single components
correspond, those around others where the ones inside do. -/
structure Parallel (strict : Prop) (R : List Component → Ledger → List Component → Ledger → Prop)
    (s s' : Setup) : Prop where
  matched : ∀ n, s.match? n = s'.match? n
  keepsLooseText : s.keepsLooseText = s'.keepsLooseText
  factory : s.factory.isNone = s'.factory.isNone
  nothing : R [] .empty [] .empty
  issue : ∀ tag, R [] (.ofIssue tag) [] (.ofIssue tag)
  append : ∀ {cs l ds m cs' l' ds' m'}, R cs l ds m → R cs' l' ds' m' →
    R (cs ++ cs') (l.merge l') (ds ++ ds') (m.merge m')
  plain : ∀ {v} n, v ∈ s.variants ∨ v = .body → ¬v.isParent →
    (s.enclose v n []).toWork.Alike strict (fun c l d m => R [c] l [d] m)
      (s'.enclose v n []).toWork
  parent : ∀ {v} n {cs l ds m}, v ∈ s.variants → v.isParent → R cs l ds m →
    (s.enclose v n cs).toWork.Alike strict (fun c k d o => R [c] (l.merge k) [d] (m.merge o))
      (s'.enclose v n ds).toWork

namespace Parallel

variable {strict : Prop} {R : List Component → Ledger → List Component → Ledger → Prop}
  {s s' : Setup} {v : Variant}

theorem alike_buildPlain
    (h : s.Parallel strict R s') (hv : v ∈ s.variants ∨ v = .body) (hplain : ¬v.isParent)
    (n : Node) :
    (s.buildPlain v n).Alike strict R (s'.buildPlain v n) := by
  have hmade (t : Setup) : (t.create v n).make t (.done []) = t.enclose v n [] :=
    make_of_not_isParent (c := t.create v n) hplain (.done [])
  have hplain := alike_singleton (h.plain n hv hplain)
  rw [← hmade, ← hmade] at hplain
  exact hplain

mutual

theorem alike_walk (h : s.Parallel strict R s') :
    ∀ n : Node, (s.walk n).Alike strict R (s'.walk n)
  | ⟨tag, attributes, children, text, claimed⟩ => by
      have hchildren := alike_walkAll h children
      rw [walk, walk]
      -- Both walks take the same branch: only what is made in it can differ.
      rw [← h.keepsLooseText, ← h.matched]
      split
      · split
        · exact h.alike_buildPlain (.inr rfl) (by decide) _
        · exact .ok h.nothing
      · cases hmatch : s.match? ⟨tag, attributes, children, text, claimed⟩ with
        | some found =>
            obtain ⟨v, m⟩ := found
            have hv := (of_match?_eq_some hmatch).1
            dsimp only
            split
            · rename_i hparent
              exact alike_singleton (alike_make_of_enclose hparent h.factory
                (fun hrelated => h.parent m hv hparent hrelated) hchildren)
            · rename_i hplain
              exact h.alike_buildPlain (.inl hv) hplain m
        | none =>
            dsimp only
            split
            · exact .ok (h.issue tag)
            · split
              · exact h.alike_buildPlain (.inr rfl) (by decide) _
              · exact hchildren

theorem alike_walkAll (h : s.Parallel strict R s') :
    ∀ ns : List Node, (s.walkAll ns).Alike strict R (s'.walkAll ns)
  | [] => .ok h.nothing
  | n :: ns => alike_walkAll_cons h.append (alike_walk h n) (alike_walkAll h ns)

end

end Parallel

end Setup

end ArticleExport
