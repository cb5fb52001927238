import ArticleExport.Proofs.Article.FragmentTree
import ArticleExport.Proofs.Article.Ledger
import ArticleExport.Proofs.Component.Steps

/-!
# Where anchors lead

Attaching a component to its target changes the identifier of the target, where it has
none that counts, and the anchor and perhaps the layout of the component.  The target
stands in the flow, so what is attached is never what something is attached to.
-/

namespace ArticleExport

/-! ## Targets stand in the flow -/

theorem firstInFlow?_eq_some {cs : List Component} {k : Nat} (h : firstInFlow? cs = some k) :
    ∃ c, cs[k]? = some c ∧ c.side = none := by
  obtain ⟨hk, hflow, -⟩ := List.findIdx?_eq_some_iff_getElem.mp h
  refine ⟨cs[k], List.getElem?_eq_getElem hk, ?_⟩
  simpa [Component.isAnchored] using hflow

theorem lastInFlow?_eq_some {cs : List Component} {k : Nat} (h : lastInFlow? cs = some k) :
    ∃ c, cs[k]? = some c ∧ c.side = none := by
  obtain ⟨j, hj, rfl⟩ := Option.map_eq_some_iff.mp h
  obtain ⟨c, hc, hside⟩ := firstInFlow?_eq_some hj
  refine ⟨c, ?_, hside⟩
  have hbound : j < cs.length := by
    rw [← List.length_reverse]
    exact (List.getElem?_eq_some_iff.mp hc).1
  rwa [List.getElem?_reverse hbound] at hc

theorem anchorTarget?_eq_some {cs : List Component} {i k : Nat} (h : anchorTarget? cs i = some k) :
    ∃ c, cs[k]? = some c ∧ c.side = none := by
  rw [anchorTarget?] at h
  split at h
  · rename_i j hj
    obtain rfl := Option.some.inj h
    obtain ⟨c, hc, hside⟩ := firstInFlow?_eq_some hj
    rw [List.getElem?_drop] at hc
    exact ⟨c, hc, hside⟩
  · obtain ⟨c, hc, hside⟩ := lastInFlow?_eq_some h
    rw [List.getElem?_take] at hc
    split at hc
    · exact ⟨c, hc, hside⟩
    · cases hc

/-! ## One step of resolving -/

theorem mem_set_of_ne {α : Type} {xs : List α} {i : Nat} {x y z : α}
    (hi : xs[i]? = some x) (hy : y ∈ xs) (hne : y ≠ x) :
    y ∈ xs.set i z := by
  obtain ⟨j, hj, rfl⟩ := List.mem_iff_getElem.mp hy
  have hij : i ≠ j := by
    rintro rfl
    exact hne (Option.some.inj ((List.getElem?_eq_getElem hj).symm.trans hi))
  refine List.mem_iff_getElem.mpr ⟨j, by simpa using hj, ?_⟩
  exact List.getElem_set_ne hij _

theorem map_set_of_getElem?_eq_some
    {α β : Type} {f : α → β} {xs : List α} {i : Nat} {x : α} (h : (xs.map f)[i]? = some (f x)) :
    (xs.set i x).map f = xs.map f := by
  rw [List.map_set]
  refine List.ext_getElem? ?_
  intro j
  rw [List.getElem?_set]
  split
  · rename_i hij
    subst hij
    rw [h, if_pos (List.getElem?_eq_some_iff.mp h).1]
  · rfl

namespace Anchoring

variable {theme : Theme} {a b : Anchoring}

/-- The names under which resolving anchors sets something in a component. -/
def touchedNames : List Text := ["identifier", "anchor", "layout"]

/-- What attaching a component has done, where it did anything. -/
theorem attach_cases {i : Nat} (h : attach theme a i = .ok b) :
    b = a ∨ ∃ c side target, a.components[i]? = some c ∧ c.side = some side ∧
      anchorTarget? a.components i = some target ∧
      let known := a.identify target
      let identifier := (known.components[target]?.map Component.identifier).getD .null
      let attached := c.set "anchor" (anchor identifier)
      (c.variant.needsLayout = false ∧
          b = { known with components := known.components.set i attached } ∨
        c.variant.needsLayout = true ∧ ∃ layout, anchorLayout theme side = .ok layout ∧
          b = { known with
            components := known.components.set i (attached.set "layout" (.str side.layoutName))
            layouts := Table.setIfAbsent side.layoutName layout known.layouts }) := by
  rw [attach] at h
  split at h
  · exact .inl (Except.ok.inj h).symm
  · rename_i c hc
    split at h
    · rename_i side target hside htarget
      refine .inr ⟨c, side, target, hc, hside, htarget, ?_⟩
      dsimp only at h ⊢
      split at h
      · rename_i hneeds
        obtain ⟨layout, hlayout, hb⟩ := exceptBind_eq_ok h
        exact .inr ⟨hneeds, layout, hlayout, (Except.ok.inj hb).symm⟩
      · rename_i hneeds
        exact .inl ⟨Bool.eq_false_iff.mpr hneeds, (Except.ok.inj h).symm⟩
    · exact .inl (Except.ok.inj h).symm

/-- What attaching one component preserves, resolving all anchors preserves. -/
theorem foldlM_attach
    {motive : Anchoring → Prop}
    (hstep : ∀ {a b : Anchoring} {i : Nat}, motive a → attach theme a i = .ok b → motive b)
    {indices : List Nat} (ha : motive a) (h : indices.foldlM (attach theme) a = .ok b) :
    motive b := by
  induction indices generalizing a with
  | nil =>
      obtain rfl := Except.ok.inj h
      exact ha
  | cons i indices ih =>
      obtain ⟨c, hattach, hrest⟩ := exceptBind_eq_ok h
      exact ih (hstep ha hattach) hrest

section Untouched

variable {β : Type} {f : Component → β}

theorem map_identify
    (hf : ∀ c value, ∀ name ∈ touchedNames, f (Component.set c name value) = f c) (a : Anchoring)
    (target : Nat) :
    (a.identify target).components.map f = a.components.map f := by
  rw [identify]
  split
  · rename_i c hc
    split
    · rfl
    · refine map_set_of_getElem?_eq_some ?_
      rw [List.getElem?_map, hc]
      exact congrArg some (hf c _ _ (.head _)).symm
  · rfl

/-- What does not depend on identifiers, anchors and layouts stays when a component is attached. -/
theorem map_attach
    (hf : ∀ c value, ∀ name ∈ touchedNames, f (Component.set c name value) = f c) {i : Nat}
    (h : attach theme a i = .ok b) :
    b.components.map f = a.components.map f := by
  rcases attach_cases h with rfl | ⟨c, side, target, hc, -, -, hb⟩
  · rfl
  have hknown := map_identify hf a target
  have hown : ((a.identify target).components.map f)[i]? = some (f c) := by
    rw [hknown, List.getElem?_map, hc]
    rfl
  have hset {d : Component} (hd : f d = f c) :
      ((a.identify target).components.set i d).map f = a.components.map f :=
    (map_set_of_getElem?_eq_some (hown.trans (congrArg some hd.symm))).trans hknown
  have hanchor (value : Json) : f (c.set "anchor" value) = f c := hf c value _ (.tail _ (.head _))
  rcases hb with ⟨-, rfl⟩ | ⟨-, layout, -, rfl⟩
  · exact hset (hanchor _)
  · exact hset ((hf _ _ _ (.tail _ (.tail _ (.head _)))).trans (hanchor _))

theorem map_resolveAnchors
    (hf : ∀ c value, ∀ name ∈ touchedNames, f (Component.set c name value) = f c)
    {cs : List Component} {layouts : Table Json} (h : resolveAnchors theme cs layouts = .ok a) :
    a.components.map f = cs.map f :=
  foldlM_attach (motive := fun b => b.components.map f = cs.map f)
    (fun hknown hattach => (map_attach hf hattach).trans hknown) rfl h

end Untouched

end Anchoring

end ArticleExport
