import ArticleExport.Proofs.Article.Resolving

/-!
# Anchors as they are specified

Every component beside the flow is anchored at the nearest one in the flow, whatever the arrangement
is.  Targets are named by their numbers in the order in which they are first used, and nothing is
changed but what the anchors need.
-/

namespace ArticleExport

/-- Positions of targets, each once, in the order in which they are first used. -/
structure IsOrderOfUse (cs : List Component) (targets : List Nat) : Prop where
  used : ∀ t, t ∈ targets ↔ ∃ i, IsAttached cs i t
  inOrder : targets.Pairwise fun t u => ∃ i, IsAttached cs i t ∧ ∀ j, IsAttached cs j u → i < j

namespace Anchoring

/-- Whether the component `c` at a position has become `d`. -/
def Becomes (cs : List Component) (a : Anchoring) (i : Nat) (c d : Component) : Prop :=
  cs[i]? = some c ∧ a.components[i]? = some d

/-- What resolving the anchors of components comes to, with the positions of the targets in the
order of their first use. -/
structure Resolves (theme : Theme) (cs : List Component) (layouts : Table Json)
    (targets : List Nat) (a : Anchoring) : Prop where
  length : a.components.length = cs.length
  identifiers : a.identifiers = targets.length
  /-- What stands beside the flow is anchored at the nearest component in the flow. -/
  anchored : ∀ {i c d}, Becomes cs a i c d → c.side ≠ none → (∃ t, InFlowAt cs t) →
    ∃ t e, IsNearestInFlow cs i t ∧ a.components[t]? = some e ∧
      Table.get? "anchor" d.json = some (anchor e.identifier)
  unanchored : ∀ {i c d}, Becomes cs a i c d → c.side = none → Table.get? "anchor" d.json = none
  /-- Targets are numbered from one on, without gaps. -/
  numbered : ∀ {k t c d}, targets[k]? = some t → Becomes cs a t c d →
    Table.get? "identifier" d.json = some (.str (componentIdentifier (k + 1)))
  unnumbered : ∀ {i c d}, i ∉ targets → Becomes cs a i c d →
    Table.get? "identifier" d.json = none
  distinct : ∀ {t u c d e f v}, Becomes cs a t c d → Becomes cs a u e f →
    Table.get? "identifier" d.json = some v → Table.get? "identifier" f.json = some v → t = u
  /-- Without a component in the flow, no component changes. -/
  untouched : (∀ t, ¬InFlowAt cs t) → a.components = cs
  /-- What is anchored and needs a layout is given that of its side, which is entered. -/
  placed : ∀ {i c d side}, Becomes cs a i c d → c.side = some side →
    c.variant.needsLayout = true → (∃ t, InFlowAt cs t) →
    Table.get? "layout" d.json = some (.str side.layoutName) ∧
      ∃ layout, anchorLayout theme side = .ok layout ∧
        Table.get? side.layoutName a.layouts =
          some ((Table.get? side.layoutName layouts).getD layout)
  unplaced : ∀ {i c d}, Becomes cs a i c d →
    c.side = none ∨ c.variant.needsLayout = false ∨ (∀ t, ¬InFlowAt cs t) →
    Table.get? "layout" d.json = Table.get? "layout" c.json
  /-- Nothing else changes in a component. -/
  kept : ∀ {i c d}, Becomes cs a i c d → d = { c with json := d.json } ∧
    ∀ name ∉ touchedNames, Table.get? name d.json = Table.get? name c.json
  keptLayouts : ∀ name, (∀ i side, NeedsLayoutAt cs i side → side.layoutName ≠ name) →
    Table.get? name a.layouts = Table.get? name layouts

section Resolved

variable {theme : Theme} {cs : List Component} {layouts : Table Json} {a : Anchoring} {i : Nat}
  {c d : Component}

theorem isOrderOfUse_targets (cs : List Component) : IsOrderOfUse cs (targets cs) where
  used t := mem_targets
  inOrder := by
    refine (pairwise_targetsUpTo cs cs.length).imp ?_
    rintro t u ⟨i, hi, hbefore⟩
    refine ⟨i, attachment?_eq_some_iff.mp hi, ?_⟩
    intro j hj
    exact hbefore j (attachment?_eq_some_iff.mpr hj)

theorem Becomes.eq (h : ResolvedUpTo theme cs layouts cs.length a) (hd : Becomes cs a i c d) :
    d = resolvedUpTo cs cs.length i c := by
  obtain ⟨hc, hd⟩ := hd
  rw [h.components, hc] at hd
  exact (Option.some.inj hd).symm

/-- A component in the flow is named where it is a target. -/
theorem Becomes.eq_of_inFlow (h : ResolvedUpTo theme cs layouts cs.length a)
    (hd : Becomes cs a i c d) (hside : c.side = none) :
    d = if i ∈ targets cs then c.set "identifier" (targetName cs i) else c := by
  rw [hd.eq h, resolvedUpTo_of_inFlow hside, targets]

/-- A component beside the flow is attached where there is anything to attach it to. -/
theorem Becomes.cases_of_beside (h : ResolvedUpTo theme cs layouts cs.length a)
    (hd : Becomes cs a i c d) {side : Side} (hside : c.side = some side) :
    (∀ t, ¬InFlowAt cs t) ∧ d = c ∨
      ∃ t, IsAttached cs i t ∧ d = c.attachedTo (targetName cs t) side := by
  have hbeside : c.side ≠ none := by
    rw [hside]
    exact nofun
  rw [hd.eq h, resolvedUpTo_of_beside hside (List.getElem?_eq_some_iff.mp hd.1).1]
  cases hi : attachment? cs i with
  | some t => exact .inr ⟨t, attachment?_eq_some_iff.mp hi, rfl⟩
  | none =>
      refine .inl ⟨?_, rfl⟩
      intro t ht
      obtain ⟨u, hu⟩ := exists_isNearestInFlow hd.1 hbeside ht
      have hsome := attachment?_eq_some_iff.mpr ⟨⟨c, hd.1, hbeside⟩, hu⟩
      rw [hi] at hsome
      cases hsome

theorem Becomes.get?_identifier (h : ResolvedUpTo theme cs layouts cs.length a)
    (hfree : ∀ c ∈ cs, c.IsFree) (hd : Becomes cs a i c d) :
    Table.get? "identifier" d.json =
      if i ∈ targets cs then some (targetName cs i) else none := by
  obtain ⟨hnone, -⟩ := hfree c (List.mem_of_getElem? hd.1)
  cases hside : c.side with
  | none =>
      rw [hd.eq_of_inFlow h hside]
      split
      · rw [Component.set, Table.get?_set, if_pos rfl]
      · exact hnone
  | some side =>
      have hnot : i ∉ targets cs := by
        intro hmem
        obtain ⟨j, hj⟩ := mem_targets.mp hmem
        obtain ⟨e, he, heside⟩ := hj.2.inFlowAt
        rw [Option.some.inj (he.symm.trans hd.1), hside] at heside
        cases heside
      rw [if_neg hnot]
      rcases hd.cases_of_beside h hside with ⟨-, rfl⟩ | ⟨t, -, rfl⟩
      · exact hnone
      · rw [Component.get?_attachedTo, if_neg fun hboth => absurd hboth.1 (by decide),
          if_neg (by decide), hnone]

theorem Becomes.get?_anchor_of_inFlow (h : ResolvedUpTo theme cs layouts cs.length a)
    (hfree : ∀ c ∈ cs, c.IsFree) (hd : Becomes cs a i c d) (hside : c.side = none) :
    Table.get? "anchor" d.json = none := by
  obtain ⟨-, hnone⟩ := hfree c (List.mem_of_getElem? hd.1)
  rw [hd.eq_of_inFlow h hside]
  split
  · rw [Component.set, Table.get?_set, if_neg (by decide), hnone]
  · exact hnone

theorem Becomes.get?_layout (h : ResolvedUpTo theme cs layouts cs.length a)
    (hd : Becomes cs a i c d)
    (hnot : c.side = none ∨ c.variant.needsLayout = false ∨ ∀ t, ¬InFlowAt cs t) :
    Table.get? "layout" d.json = Table.get? "layout" c.json := by
  cases hside : c.side with
  | none =>
      rw [hd.eq_of_inFlow h hside]
      split
      · rw [Component.set, Table.get?_set, if_neg (by decide)]
      · rfl
  | some side =>
      rcases hd.cases_of_beside h hside with ⟨-, rfl⟩ | ⟨t, ht, rfl⟩
      · rfl
      · have hneeds : ¬c.variant.needsLayout = true := by
          rcases hnot with hflow | hneeds | hall
          · rw [hside] at hflow
            cases hflow
          · exact Bool.eq_false_iff.mp hneeds
          · exact (hall t ht.2.inFlowAt).elim
        rw [Component.get?_attachedTo, if_neg fun hboth => hneeds hboth.2, if_neg (by decide)]

theorem Becomes.get?_of_notMem (h : ResolvedUpTo theme cs layouts cs.length a)
    (hd : Becomes cs a i c d) {name : Text} (hname : name ∉ touchedNames) :
    Table.get? name d.json = Table.get? name c.json := by
  simp only [touchedNames, List.mem_cons, List.not_mem_nil, or_false, not_or] at hname
  obtain ⟨hidentifier, hanchor, hlayout⟩ := hname
  cases hside : c.side with
  | none =>
      rw [hd.eq_of_inFlow h hside]
      split
      · rw [Component.set, Table.get?_set, if_neg (Ne.symm hidentifier)]
      · rfl
  | some side =>
      rcases hd.cases_of_beside h hside with ⟨-, rfl⟩ | ⟨t, -, rfl⟩
      · rfl
      · rw [Component.get?_attachedTo, if_neg fun hboth => hlayout hboth.1, if_neg hanchor]

/-- A component beside the flow is anchored at its nearest one under the name that one was given. -/
theorem Becomes.exists_anchor (h : ResolvedUpTo theme cs layouts cs.length a)
    (hd : Becomes cs a i c d) (hbeside : c.side ≠ none) (hflow : ∃ t, InFlowAt cs t) :
    ∃ t e, IsNearestInFlow cs i t ∧ a.components[t]? = some e ∧
      Table.get? "anchor" d.json = some (anchor e.identifier) := by
  obtain ⟨side, hside⟩ := Option.ne_none_iff_exists'.mp hbeside
  rcases hd.cases_of_beside h hside with ⟨hall, -⟩ | ⟨t, ht, rfl⟩
  · obtain ⟨t, ht⟩ := hflow
    exact (hall t ht).elim
  · obtain ⟨e, he, heside⟩ := ht.2.inFlowAt
    have hnamed : a.components[t]? = some (e.set "identifier" (targetName cs t)) := by
      rw [h.components, he, Option.map_some, resolvedUpTo_of_inFlow heside, ← targets,
        if_pos (mem_targets.mpr ⟨i, ht⟩)]
    refine ⟨t, _, ht.2, hnamed, ?_⟩
    rw [Component.identifier_set, Component.get?_attachedTo,
      if_neg fun hboth => absurd hboth.1 (by decide), if_pos rfl]

/-- A component beside the flow that needs a layout is given that of its side. -/
theorem Becomes.layout_of_needsLayout (h : ResolvedUpTo theme cs layouts cs.length a)
    (hd : Becomes cs a i c d) {side : Side} (hside : c.side = some side)
    (hneeds : c.variant.needsLayout = true) (hflow : ∃ t, InFlowAt cs t) :
    Table.get? "layout" d.json = some (.str side.layoutName) ∧
      ∃ layout, anchorLayout theme side = .ok layout ∧
        Table.get? side.layoutName a.layouts =
          some ((Table.get? side.layoutName layouts).getD layout) := by
  rcases hd.cases_of_beside h hside with ⟨hall, -⟩ | ⟨t, ht, rfl⟩
  · obtain ⟨t, ht⟩ := hflow
    exact (hall t ht).elim
  · refine ⟨?_, h.registered i side (List.getElem?_eq_some_iff.mp hd.1).1 ?_⟩
    · rw [Component.get?_attachedTo, if_pos ⟨rfl, hneeds⟩]
    · refine ⟨c, hd.1, hside, hneeds, ?_⟩
      rw [attachment?_eq_some_iff.mpr ht]
      rfl

/-- No two components are given one identifier. -/
theorem Becomes.eq_of_identifier (h : ResolvedUpTo theme cs layouts cs.length a)
    (hfree : ∀ c ∈ cs, c.IsFree) {j : Nat} {e f : Component} {value : Json}
    (hd : Becomes cs a i c d) (hf : Becomes cs a j e f)
    (hi : Table.get? "identifier" d.json = some value)
    (hj : Table.get? "identifier" f.json = some value) :
    i = j := by
  rw [hd.get?_identifier h hfree] at hi
  rw [hf.get?_identifier h hfree] at hj
  split at hi
  · rename_i himem
    split at hj
    · have hnames := Json.str.inj ((Option.some.inj hi).trans (Option.some.inj hj).symm)
      have hnumbers := Nat.succ.inj (componentIdentifier_injective hnames)
      exact (List.idxOf_inj himem).mp hnumbers
    · cases hj
  · cases hi

/-- Anchors are resolved as specified, for every arrangement of components. -/
theorem exists_resolves_of_resolveAnchors (hfree : ∀ c ∈ cs, c.IsFree)
    (h : resolveAnchors theme cs layouts = .ok a) :
    ∃ targets, IsOrderOfUse cs targets ∧ a.Resolves theme cs layouts targets := by
  have hresolved := ResolvedUpTo.of_resolveAnchors hfree h
  refine ⟨targets cs, isOrderOfUse_targets cs, ?_⟩
  constructor
  case length =>
    refine Nat.le_antisymm ?_ ?_
    · exact List.getElem?_eq_none_iff.mp (by rw [hresolved.components]; simp)
    · have hend := hresolved.components a.components.length
      rw [List.getElem?_eq_none (Nat.le_refl _)] at hend
      exact List.getElem?_eq_none_iff.mp (Option.map_eq_none_iff.mp hend.symm)
  case identifiers => exact hresolved.identifiers
  case anchored =>
    intro i c d hd hbeside hflow
    exact hd.exists_anchor hresolved hbeside hflow
  case unanchored =>
    intro i c d hd hside
    exact hd.get?_anchor_of_inFlow hresolved hfree hside
  case numbered =>
    intro k t c d hk hd
    obtain ⟨hlt, hkt⟩ := List.getElem?_eq_some_iff.mp hk
    rw [hd.get?_identifier hresolved hfree, if_pos (List.mem_of_getElem? hk), targetName, ← hkt,
      (nodup_targets cs).idxOf_getElem]
  case unnumbered =>
    intro i c d hi hd
    rw [hd.get?_identifier hresolved hfree, if_neg hi]
  case distinct =>
    intro t u c d e f value hd hf ht hu
    exact hd.eq_of_identifier hresolved hfree hf ht hu
  case untouched =>
    intro hall
    refine List.ext_getElem? fun i => ?_
    rw [hresolved.components]
    cases hc : cs[i]? with
    | none => rfl
    | some c =>
        have hbeside : c.side ≠ none := fun hside => hall i ⟨c, hc, hside⟩
        obtain ⟨side, hside⟩ := Option.ne_none_iff_exists'.mp hbeside
        have hd : Becomes cs a i c (resolvedUpTo cs cs.length i c) :=
          ⟨hc, by rw [hresolved.components, hc, Option.map_some]⟩
        rcases hd.cases_of_beside hresolved hside with ⟨-, hsame⟩ | ⟨t, ht, -⟩
        · rw [Option.map_some, hsame]
        · exact (hall t ht.2.inFlowAt).elim
  case placed =>
    intro i c d side hd hside hneeds hflow
    exact hd.layout_of_needsLayout hresolved hside hneeds hflow
  case unplaced =>
    intro i c d hd hnot
    exact hd.get?_layout hresolved hnot
  case kept =>
    intro i c d hd
    constructor
    · rw [hd.eq hresolved]
      exact resolvedUpTo_eq cs cs.length i c
    · intro name hname
      exact hd.get?_of_notMem hresolved hname
  case keptLayouts =>
    intro name hname
    exact hresolved.kept name fun i side _ => hname i side

/-- Five components of which three stand beside the flow. -/
theorem exists_resolves_of_beside_beside :
    let plain : Component := ⟨.divider, .element "hr" [] [], .empty, [("role", "divider")], [],
      none, .built⟩
    let cs := [{ plain with side := some .left }, plain, { plain with side := some .right }, plain,
      { plain with side := some .left }]
    ∃ a, resolveAnchors .default cs [] = .ok a ∧ (∀ c ∈ cs, c.IsFree) ∧
      ∃ targets, IsOrderOfUse cs targets ∧ a.Resolves .default cs [] targets := by
  intro plain cs
  obtain ⟨a, ha⟩ := exists_of_isOk
    (show (resolveAnchors .default cs []).isOk = true by decide +kernel)
  have hfree : ∀ c ∈ cs, c.IsFree := by decide
  exact ⟨a, ha, hfree, exists_resolves_of_resolveAnchors hfree ha⟩

end Resolved

end Anchoring

end ArticleExport
