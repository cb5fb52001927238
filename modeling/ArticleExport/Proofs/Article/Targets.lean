import ArticleExport.Proofs.Article.Alignment
import Mathlib.Data.List.Nodup
import Mathlib.Data.Nat.Init

/-!
# Where anchors are to lead

The component that another one is attached to is the nearest one in the flow: the next one behind
it, or the last one before it where none comes behind.  Targets are numbered in the order in which
they are first used, each once.  That depends on nothing but the sides at which the components
stand, which resolving anchors leaves alone.
-/

namespace ArticleExport

/-! ## The nearest component in the flow -/

/-- Whether a component in the flow stands at a position. -/
def InFlowAt (cs : List Component) (t : Nat) : Prop :=
  ∃ c, cs[t]? = some c ∧ c.side = none

/-- The position of the component in the flow that is nearest to a position. -/
inductive IsNearestInFlow (cs : List Component) (i t : Nat) : Prop
  | behind (later : i < t) (inFlow : InFlowAt cs t)
      (nearest : ∀ j, i < j → j < t → ¬InFlowAt cs j)
  | before (noneBehind : ∀ j, i < j → ¬InFlowAt cs j) (earlier : t < i) (inFlow : InFlowAt cs t)
      (nearest : ∀ j, t < j → j < i → ¬InFlowAt cs j)

section Nearest

variable {cs : List Component} {i t k : Nat}

theorem InFlowAt.lt_length (h : InFlowAt cs t) : t < cs.length := by
  obtain ⟨c, hc, -⟩ := h
  exact (List.getElem?_eq_some_iff.mp hc).1

theorem IsNearestInFlow.inFlowAt (h : IsNearestInFlow cs i t) : InFlowAt cs t := by
  cases h with
  | behind later inFlow nearest => exact inFlow
  | before noneBehind earlier inFlow nearest => exact inFlow

theorem inFlowAt_iff_getElem (h : t < cs.length) :
    InFlowAt cs t ↔ (!cs[t].isAnchored) = true := by
  rw [InFlowAt, List.getElem?_eq_getElem h, Component.isAnchored, Bool.not_eq_true',
    Option.isSome_eq_false_iff, Option.isNone_iff_eq_none]
  constructor
  · rintro ⟨c, hc, hside⟩
    rwa [Option.some.inj hc]
  · intro hside
    exact ⟨cs[t], rfl, hside⟩

theorem inFlowAt_drop (m : Nat) : InFlowAt (cs.drop m) t ↔ InFlowAt cs (m + t) := by
  rw [InFlowAt, InFlowAt, List.getElem?_drop]

theorem inFlowAt_take (m : Nat) : InFlowAt (cs.take m) t ↔ t < m ∧ InFlowAt cs t := by
  rw [InFlowAt, InFlowAt, List.getElem?_take]
  by_cases h : t < m
  · simp [h]
  · simp [h]

theorem inFlowAt_reverse (h : t < cs.length) :
    InFlowAt cs.reverse t ↔ InFlowAt cs (cs.length - 1 - t) := by
  rw [InFlowAt, InFlowAt, List.getElem?_reverse h]

theorem firstInFlow?_eq_some_iff :
    firstInFlow? cs = some k ↔ InFlowAt cs k ∧ ∀ j, j < k → ¬InFlowAt cs j := by
  rw [firstInFlow?, List.findIdx?_eq_some_iff_getElem]
  constructor
  · rintro ⟨hk, hflow, hbefore⟩
    refine ⟨(inFlowAt_iff_getElem hk).mpr hflow, ?_⟩
    intro j hj hflowj
    exact hbefore j hj ((inFlowAt_iff_getElem (Nat.lt_trans hj hk)).mp hflowj)
  · rintro ⟨hflow, hbefore⟩
    refine ⟨hflow.lt_length, (inFlowAt_iff_getElem hflow.lt_length).mp hflow, ?_⟩
    intro j hj hflowj
    exact hbefore j hj ((inFlowAt_iff_getElem (Nat.lt_trans hj hflow.lt_length)).mpr hflowj)

theorem firstInFlow?_eq_none_iff : firstInFlow? cs = none ↔ ∀ j, ¬InFlowAt cs j := by
  constructor
  · intro hnone j hj
    obtain ⟨c, hc, hside⟩ := hj
    have hanchored := List.findIdx?_eq_none_iff.mp hnone c (List.mem_of_getElem? hc)
    rw [Component.isAnchored, hside] at hanchored
    cases hanchored
  · intro hall
    cases hfirst : firstInFlow? cs with
    | none => rfl
    | some k => exact (hall k (firstInFlow?_eq_some_iff.mp hfirst).1).elim

theorem lastInFlow?_eq_some_iff :
    lastInFlow? cs = some k ↔ InFlowAt cs k ∧ ∀ j, k < j → ¬InFlowAt cs j := by
  rw [lastInFlow?, Option.map_eq_some_iff]
  constructor
  · rintro ⟨r, hr, rfl⟩
    obtain ⟨hflow, hbefore⟩ := firstInFlow?_eq_some_iff.mp hr
    have hbound : r < cs.length := by
      have hlength := hflow.lt_length
      rwa [List.length_reverse] at hlength
    refine ⟨(inFlowAt_reverse hbound).mp hflow, ?_⟩
    intro j hj hflowj
    have hj' := hflowj.lt_length
    refine hbefore (cs.length - 1 - j) (by omega) ((inFlowAt_reverse (by omega)).mpr ?_)
    rwa [show cs.length - 1 - (cs.length - 1 - j) = j by omega]
  · rintro ⟨hflow, hbehind⟩
    have hbound := hflow.lt_length
    refine ⟨cs.length - 1 - k, firstInFlow?_eq_some_iff.mpr ⟨?_, ?_⟩, by omega⟩
    · rw [inFlowAt_reverse (by omega), show cs.length - 1 - (cs.length - 1 - k) = k by omega]
      exact hflow
    · intro j hj hflowj
      exact hbehind (cs.length - 1 - j) (by omega) ((inFlowAt_reverse (by omega)).mp hflowj)

theorem exists_lastInFlow? (h : InFlowAt cs t) : ∃ k, lastInFlow? cs = some k := by
  cases hlast : lastInFlow? cs with
  | some k => exact ⟨k, rfl⟩
  | none =>
      have hnone := firstInFlow?_eq_none_iff.mp (Option.map_eq_none_iff.mp hlast)
      have hbound := h.lt_length
      refine (hnone (cs.length - 1 - t) ((inFlowAt_reverse (by omega)).mpr ?_)).elim
      rwa [show cs.length - 1 - (cs.length - 1 - t) = t by omega]

/-- The target that is looked up is the nearest component in the flow. -/
theorem anchorTarget?_eq_some_iff : anchorTarget? cs i = some t ↔ IsNearestInFlow cs i t := by
  rw [anchorTarget?]
  cases hfirst : firstInFlow? (cs.drop (i + 1)) with
  | some k =>
      obtain ⟨hflow, hbefore⟩ := firstInFlow?_eq_some_iff.mp hfirst
      rw [inFlowAt_drop] at hflow
      have hnearest : ∀ j, i < j → j < i + 1 + k → ¬InFlowAt cs j := by
        intro j hij hjk hflowj
        refine hbefore (j - (i + 1)) (by omega) ((inFlowAt_drop _).mpr ?_)
        rwa [show i + 1 + (j - (i + 1)) = j by omega]
      rw [Option.some_inj]
      constructor
      · rintro rfl
        exact .behind (by omega) hflow hnearest
      · intro hnear
        cases hnear with
        | behind later inFlow nearest =>
            rcases Nat.lt_trichotomy (i + 1 + k) t with hlt | heq | hgt
            · exact (nearest _ (by omega) hlt hflow).elim
            · exact heq
            · exact (hnearest t later hgt inFlow).elim
        | before noneBehind earlier inFlow nearest =>
            exact (noneBehind _ (by omega) hflow).elim
  | none =>
      have hnone : ∀ j, i < j → ¬InFlowAt cs j := by
        intro j hij hflowj
        refine firstInFlow?_eq_none_iff.mp hfirst (j - (i + 1)) ((inFlowAt_drop _).mpr ?_)
        rwa [show i + 1 + (j - (i + 1)) = j by omega]
      -- Only where no component behind stands in the flow does the last one before count.
      dsimp only
      rw [lastInFlow?_eq_some_iff]
      simp only [inFlowAt_take]
      constructor
      · rintro ⟨⟨hti, hflow⟩, hbehind⟩
        exact .before hnone hti hflow fun j htj hji hflowj => hbehind j htj ⟨hji, hflowj⟩
      · intro hnear
        cases hnear with
        | behind later inFlow nearest => exact (hnone t later inFlow).elim
        | before noneBehind earlier inFlow nearest =>
            exact ⟨⟨earlier, inFlow⟩, fun j htj hj => nearest j htj hj.1 hj.2⟩

/-- Where anything stands in the flow, every other component has a nearest one. -/
theorem exists_isNearestInFlow {c : Component} (hc : cs[i]? = some c) (hside : c.side ≠ none)
    (h : InFlowAt cs t) :
    ∃ u, IsNearestInFlow cs i u := by
  have hne : t ≠ i := by
    rintro rfl
    obtain ⟨d, hd, hdside⟩ := h
    rw [Option.some.inj (hd.symm.trans hc)] at hdside
    exact hside hdside
  suffices hsome : ∃ u, anchorTarget? cs i = some u by
    obtain ⟨u, hu⟩ := hsome
    exact ⟨u, anchorTarget?_eq_some_iff.mp hu⟩
  rw [anchorTarget?]
  cases hfirst : firstInFlow? (cs.drop (i + 1)) with
  | some k => exact ⟨_, rfl⟩
  | none =>
      have hbefore : t < i := by
        by_contra hbehind
        refine firstInFlow?_eq_none_iff.mp hfirst (t - (i + 1)) ((inFlowAt_drop _).mpr ?_)
        rwa [show i + 1 + (t - (i + 1)) = t by omega]
      exact exists_lastInFlow? ((inFlowAt_take i).mpr ⟨hbefore, h⟩)

end Nearest

/-! ## Targets in the order of their first use -/

/-- Whether the component at a position stands beside the flow and belongs to one in the flow. -/
def IsAttached (cs : List Component) (i t : Nat) : Prop :=
  (∃ c, cs[i]? = some c ∧ c.side ≠ none) ∧ IsNearestInFlow cs i t

/-- The position of the component to which the one at a position is attached. -/
def attachment? (cs : List Component) (i : Nat) : Option Nat :=
  if cs[i]?.any Component.isAnchored then anchorTarget? cs i else none

/-- The targets of the first `n` components, each once, in the order of their first use. -/
def targetsUpTo (cs : List Component) (n : Nat) : List Nat :=
  ((List.range n).filterMap (attachment? cs)).eraseDups

/-- The targets of all components, each once, in the order of their first use. -/
def targets (cs : List Component) : List Nat := targetsUpTo cs cs.length

/-- What the component at a position is called where it is a target. -/
def targetName (cs : List Component) (t : Nat) : Json :=
  .str (componentIdentifier ((targets cs).idxOf t + 1))

section Targets

variable {cs : List Component} {i t u n : Nat}

theorem attachment?_eq_some_iff : attachment? cs i = some t ↔ IsAttached cs i t := by
  rw [attachment?, IsAttached, ← anchorTarget?_eq_some_iff]
  cases hc : cs[i]? with
  | none => simp
  | some c => simp [Component.isAnchored, Option.isSome_iff_ne_none]

theorem lt_length_of_attachment? (h : attachment? cs i = some t) : i < cs.length := by
  obtain ⟨⟨c, hc, -⟩, -⟩ := attachment?_eq_some_iff.mp h
  exact (List.getElem?_eq_some_iff.mp hc).1

theorem mem_targetsUpTo : t ∈ targetsUpTo cs n ↔ ∃ i, i < n ∧ attachment? cs i = some t := by
  rw [targetsUpTo, List.mem_eraseDups, List.mem_filterMap]
  simp only [List.mem_range]

theorem mem_targets : t ∈ targets cs ↔ ∃ i, IsAttached cs i t := by
  rw [targets, mem_targetsUpTo]
  constructor
  · rintro ⟨i, -, hi⟩
    exact ⟨i, attachment?_eq_some_iff.mp hi⟩
  · rintro ⟨i, hi⟩
    have hsome := attachment?_eq_some_iff.mpr hi
    exact ⟨i, lt_length_of_attachment? hsome, hsome⟩

/-- A target is added behind those that were used before, unless it was used before. -/
theorem targetsUpTo_succ (cs : List Component) (n : Nat) :
    targetsUpTo cs (n + 1) =
      match attachment? cs n with
      | some t => if t ∈ targetsUpTo cs n then targetsUpTo cs n else targetsUpTo cs n ++ [t]
      | none => targetsUpTo cs n := by
  rw [targetsUpTo, List.range_succ, List.filterMap_append, List.eraseDups_append, ← targetsUpTo]
  cases hn : attachment? cs n with
  | none => simp [hn]
  | some t =>
      dsimp only
      split
      · rename_i hold
        rw [targetsUpTo, List.mem_eraseDups] at hold
        have hgone : [t].removeAll ((List.range n).filterMap (attachment? cs)) = [] := by
          rw [List.removeAll, List.filter_cons_of_neg (by simpa using hold), List.filter_nil]
        rw [List.filterMap_cons_some hn, List.filterMap_nil, hgone, List.eraseDups_nil,
          List.append_nil]
      · rename_i hnew
        rw [targetsUpTo, List.mem_eraseDups] at hnew
        have hkept : [t].removeAll ((List.range n).filterMap (attachment? cs)) = [t] := by
          rw [List.removeAll, List.filter_cons_of_pos (by simpa using hnew), List.filter_nil]
        rw [List.filterMap_cons_some hn, List.filterMap_nil, hkept, List.eraseDups_cons]
        rfl

theorem targetsUpTo_prefix {m : Nat} (h : n ≤ m) : targetsUpTo cs n <+: targetsUpTo cs m := by
  induction m, h using Nat.le_induction with
  | base => exact List.prefix_refl _
  | succ m hm ih =>
      refine ih.trans ?_
      rw [targetsUpTo_succ]
      split
      · split
        · exact List.prefix_refl _
        · exact List.prefix_append _ _
      · exact List.prefix_refl _

/-- Where a target is used for the first time, its number is the next one. -/
theorem idxOf_targets (hn : attachment? cs n = some t) (hnew : t ∉ targetsUpTo cs n) :
    (targets cs).idxOf t = (targetsUpTo cs n).length := by
  have hprefix : targetsUpTo cs (n + 1) <+: targets cs :=
    targetsUpTo_prefix (lt_length_of_attachment? hn)
  rw [targetsUpTo_succ, hn] at hprefix
  dsimp only at hprefix
  rw [if_neg hnew] at hprefix
  obtain ⟨later, hlater⟩ := hprefix
  rw [← hlater, List.idxOf_append_of_mem (by simp), List.idxOf_append_of_notMem hnew]
  simp

/-- Of two targets, the one in front was used before the other one. -/
theorem pairwise_targetsUpTo (cs : List Component) (n : Nat) :
    (targetsUpTo cs n).Pairwise fun t u =>
      ∃ i, attachment? cs i = some t ∧ ∀ j, attachment? cs j = some u → i < j := by
  induction n with
  | zero => exact .nil
  | succ n ih =>
      rw [targetsUpTo_succ]
      split
      · rename_i u hu
        split
        · exact ih
        · rename_i hnew
          rw [List.pairwise_append]
          refine ⟨ih, List.pairwise_singleton _ _, ?_⟩
          intro t ht v hv
          obtain rfl := List.mem_singleton.mp hv
          obtain ⟨i, hi, hit⟩ := mem_targetsUpTo.mp ht
          refine ⟨i, hit, ?_⟩
          intro j hj
          by_contra hbefore
          exact hnew (mem_targetsUpTo.mpr ⟨j, by omega, hj⟩)
      · exact ih

theorem nodup_targets (cs : List Component) : (targets cs).Nodup := by
  refine (pairwise_targetsUpTo cs cs.length).imp ?_
  rintro t u ⟨i, hi, hbefore⟩ rfl
  exact Nat.lt_irrefl i (hbefore i hi)

theorem attachment?_congr {ds : List Component}
    (h : cs.map Component.isAnchored = ds.map Component.isAnchored) (i : Nat) :
    attachment? cs i = attachment? ds i := by
  have hany (es : List Component) :
      (es[i]?.any Component.isAnchored) = (es.map Component.isAnchored)[i]?.any id := by
    rw [List.getElem?_map, Option.any_map]
    rfl
  rw [attachment?, attachment?, anchorTarget?_congr h, hany, hany, h]

end Targets

theorem componentIdentifier_injective : Function.Injective componentIdentifier := by
  intro m n h
  have hdigits : Nat.toDigits 10 m = Nat.toDigits 10 n :=
    List.map_injective_iff.mpr (fun _ _ => CodePoint.scalar.inj) (List.append_cancel_left h)
  have hvalue := congrArg (Nat.ofDigitChars 10 · 0) hdigits
  simpa using hvalue

end ArticleExport
