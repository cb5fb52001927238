import ArticleExport.Proofs.Article.Anchors
import ArticleExport.Proofs.Walk.Simulation

/-!
# The anchors of two lists of components

Which component is attached to which depends on nothing but the sides at which the
components stand and the identifiers that they have.  So where two lists agree on these,
component by component, resolving their anchors does the same to both, and either fails for
the same reason or enters the same layouts.
-/

namespace ArticleExport

/-! ## Lists that correspond item by item -/

section Lists

variable {α β : Type} {R : α → β → Prop}

theorem forall₂_getElem? {xs : List α} {ys : List β} (h : List.Forall₂ R xs ys) (i : Nat) :
    xs[i]? = none ∧ ys[i]? = none ∨ ∃ x y, xs[i]? = some x ∧ ys[i]? = some y ∧ R x y := by
  induction h generalizing i with
  | nil => exact .inl ⟨rfl, rfl⟩
  | cons hrelated _ ih =>
      cases i with
      | zero => exact .inr ⟨_, _, rfl, rfl, hrelated⟩
      | succ i => exact ih i

theorem forall₂_set {xs : List α} {ys : List β} (h : List.Forall₂ R xs ys) {x : α} {y : β}
    (hrelated : R x y) (i : Nat) :
    List.Forall₂ R (xs.set i x) (ys.set i y) := by
  induction h generalizing i with
  | nil => exact .nil
  | cons hfirst hrest ih =>
      cases i with
      | zero => exact .cons hrelated hrest
      | succ i => exact .cons hfirst (ih i)

theorem map_eq_map_of_forall₂ {γ : Type} {f : α → γ} {g : β → γ} (hfg : ∀ {x y}, R x y → f x = g y)
    {xs : List α} {ys : List β} (h : List.Forall₂ R xs ys) :
    xs.map f = ys.map g := by
  induction h with
  | nil => rfl
  | cons hrelated _ ih => rw [List.map_cons, List.map_cons, hfg hrelated, ih]

end Lists

/-! ## Targets -/

theorem firstInFlow?_congr {cs ds : List Component}
    (h : cs.map Component.isAnchored = ds.map Component.isAnchored) :
    firstInFlow? cs = firstInFlow? ds := by
  have hflow (es : List Component) :
      firstInFlow? es = (es.map Component.isAnchored).findIdx? (!·) := by
    rw [List.findIdx?_map]
    rfl
  rw [hflow, hflow, h]

theorem lastInFlow?_congr {cs ds : List Component}
    (h : cs.map Component.isAnchored = ds.map Component.isAnchored) :
    lastInFlow? cs = lastInFlow? ds := by
  have hlength : cs.length = ds.length := by
    rw [← List.length_map (f := Component.isAnchored), h, List.length_map]
  have hreverse : cs.reverse.map Component.isAnchored = ds.reverse.map Component.isAnchored := by
    rw [List.map_reverse, List.map_reverse, h]
  rw [lastInFlow?, lastInFlow?, firstInFlow?_congr hreverse, hlength]

theorem anchorTarget?_congr {cs ds : List Component}
    (h : cs.map Component.isAnchored = ds.map Component.isAnchored) (i : Nat) :
    anchorTarget? cs i = anchorTarget? ds i := by
  have hbehind : (cs.drop (i + 1)).map Component.isAnchored =
      (ds.drop (i + 1)).map Component.isAnchored := by
    rw [List.map_drop, List.map_drop, h]
  have hbefore : (cs.take i).map Component.isAnchored = (ds.take i).map Component.isAnchored := by
    rw [List.map_take, List.map_take, h]
  rw [anchorTarget?, anchorTarget?, firstInFlow?_congr hbehind, lastInFlow?_congr hbefore]

/-! ## Anchors -/

/-- A relation between components that stand at the same side under the same identifier, and stay
related when the same anchor, identifier or layout is given to both. -/
structure AnchoredAlike (R : Component → Component → Prop) : Prop where
  side : ∀ {c d}, R c d → c.side = d.side
  needsLayout : ∀ {c d}, R c d → c.variant.needsLayout = d.variant.needsLayout
  identifier : ∀ {c d}, R c d → c.identifier = d.identifier
  set : ∀ {c d name} value, name ∈ Anchoring.touchedNames → R c d →
    R (c.set name value) (d.set name value)

namespace Anchoring

variable {R : Component → Component → Prop} {theme theme' : Theme} {a b : Anchoring}

/-- Two states of resolving that have related components and are the same otherwise. -/
structure Aligned (R : Component → Component → Prop) (a b : Anchoring) : Prop where
  components : List.Forall₂ R a.components b.components
  layouts : a.layouts = b.layouts
  identifiers : a.identifiers = b.identifiers

theorem Aligned.identify (hR : AnchoredAlike R) (h : a.Aligned R b) (target : Nat) :
    (a.identify target).Aligned R (b.identify target) := by
  rw [Anchoring.identify, Anchoring.identify]
  rcases forall₂_getElem? h.components target with ⟨hc, hd⟩ | ⟨c, d, hc, hd, hrelated⟩
  · rw [hc, hd]
    exact h
  · simp only [hc, hd, hR.identifier hrelated]
    split
    · exact h
    · rw [h.identifiers]
      exact ⟨forall₂_set h.components (hR.set _ (.head _) hrelated) target, h.layouts, rfl⟩

theorem Aligned.attach
    (hR : AnchoredAlike R) (hlayout : ∀ side, anchorLayout theme side = anchorLayout theme' side)
    (h : a.Aligned R b) (i : Nat) :
    ResultsAlike True (Aligned R) (a.attach theme i) (b.attach theme' i) := by
  have hanchored : a.components.map Component.isAnchored = b.components.map Component.isAnchored :=
    map_eq_map_of_forall₂ (fun hrelated => congrArg Option.isSome (hR.side hrelated)) h.components
  rw [Anchoring.attach, Anchoring.attach, anchorTarget?_congr hanchored]
  rcases forall₂_getElem? h.components i with ⟨hc, hd⟩ | ⟨c, d, hc, hd, hrelated⟩
  · rw [hc, hd]
    exact .ok h
  simp only [hc, hd, hR.side hrelated]
  split
  · rename_i side target hside htarget
    have hknown := h.identify hR target
    -- The anchor refers to the identifier that the target may have been given just now.
    have hidentifier :
        ((a.identify target).components[target]?.map Component.identifier).getD .null =
          ((b.identify target).components[target]?.map Component.identifier).getD .null := by
      rcases forall₂_getElem? hknown.components target with ⟨he, hf⟩ | ⟨e, f, he, hf, hsame⟩
      · rw [he, hf]
      · rw [he, hf]
        exact congrArg (fun v => (some v).getD Json.null) (hR.identifier hsame)
    have hset := hR.set (anchor (((b.identify target).components[target]?.map
      Component.identifier).getD .null)) (.tail _ (.head _)) hrelated
    rw [hidentifier, show (c.set "anchor" _).variant = c.variant from rfl,
      show (d.set "anchor" _).variant = d.variant from rfl, hR.needsLayout hrelated]
    split
    · rw [hlayout]
      refine (ResultsAlike.of_eq (fun _ => rfl) rfl).bind ?_
      rintro layout _ rfl
      refine .ok ⟨?_, ?_, hknown.identifiers⟩
      · exact forall₂_set hknown.components (hR.set _ (.tail _ (.tail _ (.head _))) hset) i
      · exact congrArg (Table.setIfAbsent side.layoutName layout) hknown.layouts
    · exact .ok ⟨forall₂_set hknown.components hset i, hknown.layouts, hknown.identifiers⟩
  · exact .ok h

/-- Resolving the anchors of two lists of related components does the same to both. -/
theorem aligned_resolveAnchors
    (hR : AnchoredAlike R) (hlayout : ∀ side, anchorLayout theme side = anchorLayout theme' side)
    {cs ds : List Component} (h : List.Forall₂ R cs ds) (layouts : Table Json) :
    ResultsAlike True (Aligned R) (resolveAnchors theme cs layouts)
      (resolveAnchors theme' ds layouts) := by
  rw [resolveAnchors, resolveAnchors, h.length_eq]
  refine ResultsAlike.foldlM ?_ _ ⟨h, rfl, rfl⟩
  intro a b i haligned
  exact haligned.attach hR hlayout i

end Anchoring

end ArticleExport
