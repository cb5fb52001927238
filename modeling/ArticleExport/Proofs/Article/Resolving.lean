import ArticleExport.Proofs.Article.Targets

/-!
# What resolving anchors comes to

Resolving goes over the components once, and it changes targets while components further behind
still look for theirs.  What carries the argument is how each component reads after the first `n`
positions: those beside the flow among them have their anchors, and the targets that were used are
named by their numbers.
-/

namespace ArticleExport

/-- Whether a component has neither an identifier nor an anchor. -/
def Component.IsFree (c : Component) : Prop :=
  Table.get? "identifier" c.json = none ∧ Table.get? "anchor" c.json = none

instance (c : Component) : Decidable c.IsFree := inferInstanceAs (Decidable (_ ∧ _))

/-- A component beside the flow with an anchor at a target, and with the layout of its side where it
brings none of its own. -/
def Component.attachedTo (c : Component) (name : Json) (side : Side) : Component :=
  let attached := c.set "anchor" (Anchoring.anchor name)
  if c.variant.needsLayout then attached.set "layout" (.str side.layoutName) else attached

/-- How the component at a position reads once the anchors of the first `n` components are resolved. -/
def resolvedUpTo (cs : List Component) (n i : Nat) (c : Component) : Component :=
  match c.side with
  | none => if i ∈ targetsUpTo cs n then c.set "identifier" (targetName cs i) else c
  | some side =>
    match if i < n then attachment? cs i else none with
    | some t => c.attachedTo (targetName cs t) side
    | none => c

/-- Whether the component at a position is given the layout of a side. -/
def NeedsLayoutAt (cs : List Component) (i : Nat) (side : Side) : Prop :=
  ∃ c, cs[i]? = some c ∧ c.side = some side ∧ c.variant.needsLayout = true ∧
    (attachment? cs i).isSome

section Components

variable {cs : List Component} {n i : Nat} {c : Component} {side : Side}

theorem Component.identifier_set (c : Component) (value : Json) :
    (c.set "identifier" value).identifier = value := by
  rw [Component.identifier, Component.set, Table.get?_set, if_pos rfl]
  rfl

theorem Component.attachedTo_eq (c : Component) (name : Json) (side : Side) :
    c.attachedTo name side = { c with json := (c.attachedTo name side).json } := by
  rw [Component.attachedTo]
  split
  · rfl
  · rfl

theorem Component.get?_attachedTo (c : Component) (name : Json) (side : Side) (key : Text) :
    Table.get? key (c.attachedTo name side).json =
      if key = "layout" ∧ c.variant.needsLayout = true then some (.str side.layoutName)
      else if key = "anchor" then some (Anchoring.anchor name)
      else Table.get? key c.json := by
  rw [Component.attachedTo]
  split
  · rename_i hneeds
    simp only [Component.set, Table.get?_set, eq_comm (a := key), hneeds, and_true]
  · rename_i hneeds
    rw [if_neg fun hboth => hneeds hboth.2, Component.set, Table.get?_set]
    simp only [eq_comm (a := key)]

theorem resolvedUpTo_eq (cs : List Component) (n i : Nat) (c : Component) :
    resolvedUpTo cs n i c = { c with json := (resolvedUpTo cs n i c).json } := by
  rw [resolvedUpTo]
  split
  · split
    · rfl
    · rfl
  · split
    · exact Component.attachedTo_eq c _ _
    · rfl

theorem resolvedUpTo_of_inFlow (hside : c.side = none) :
    resolvedUpTo cs n i c =
      if i ∈ targetsUpTo cs n then c.set "identifier" (targetName cs i) else c := by
  rw [resolvedUpTo, hside]

theorem resolvedUpTo_of_beside (hside : c.side = some side) (hi : i < n) :
    resolvedUpTo cs n i c =
      match attachment? cs i with
      | some t => c.attachedTo (targetName cs t) side
      | none => c := by
  rw [resolvedUpTo, hside]
  dsimp only
  rw [if_pos hi]

theorem resolvedUpTo_of_later (hside : c.side = some side) (hi : n ≤ i) :
    resolvedUpTo cs n i c = c := by
  rw [resolvedUpTo, hside]
  dsimp only
  rw [if_neg (by omega)]

/-- One position more changes nothing but the component at the position and its target. -/
theorem resolvedUpTo_succ (hi : i = n → attachment? cs n = none) (ht : attachment? cs n ≠ some i)
    (c : Component) :
    resolvedUpTo cs (n + 1) i c = resolvedUpTo cs n i c := by
  have hmem : i ∈ targetsUpTo cs (n + 1) ↔ i ∈ targetsUpTo cs n := by
    rw [mem_targetsUpTo, mem_targetsUpTo]
    constructor
    · rintro ⟨j, hj, hji⟩
      have hne : j ≠ n := by
        rintro rfl
        exact ht hji
      exact ⟨j, by omega, hji⟩
    · rintro ⟨j, hj, hji⟩
      exact ⟨j, by omega, hji⟩
  have hown : (if i < n + 1 then attachment? cs i else none) =
      if i < n then attachment? cs i else none := by
    by_cases hin : i = n
    · rw [if_pos (by omega), if_neg (by omega), hin, hi hin]
    · simp only [show i < n + 1 ↔ i < n by omega]
  rw [resolvedUpTo, resolvedUpTo, hown]
  simp only [hmem]

theorem Side.layoutName_injective : Function.Injective Side.layoutName := by
  intro s t h
  cases s <;> cases t
  · rfl
  · exact absurd h (by decide)
  · exact absurd h (by decide)
  · rfl

end Components

namespace Anchoring

/-- The state of resolving once the anchors of the first `n` components are resolved. -/
structure ResolvedUpTo (theme : Theme) (cs : List Component) (layouts : Table Json) (n : Nat)
    (a : Anchoring) : Prop where
  components : ∀ i, a.components[i]? = cs[i]?.map (resolvedUpTo cs n i)
  identifiers : a.identifiers = (targetsUpTo cs n).length
  registered : ∀ i side, i < n → NeedsLayoutAt cs i side →
    ∃ layout, anchorLayout theme side = .ok layout ∧
      Table.get? side.layoutName a.layouts =
        some ((Table.get? side.layoutName layouts).getD layout)
  kept : ∀ name, (∀ i side, i < n → NeedsLayoutAt cs i side → side.layoutName ≠ name) →
    Table.get? name a.layouts = Table.get? name layouts

variable {theme : Theme} {cs : List Component} {layouts : Table Json} {n t : Nat}
  {a b : Anchoring}

theorem resolvedUpTo_zero (theme : Theme) (cs : List Component) (layouts : Table Json) :
    ResolvedUpTo theme cs layouts 0 ⟨cs, layouts, 0⟩ where
  components i := by
    cases hc : cs[i]? with
    | none => rfl
    | some c =>
        rw [Option.map_some, resolvedUpTo]
        split
        · rw [if_neg nofun]
        · rw [if_neg (Nat.not_lt_zero i)]
  identifiers := rfl
  registered i side hi := absurd hi (Nat.not_lt_zero i)
  kept name _ := rfl

theorem attach_of_attachment?_eq_none (h : attachment? a.components n = none) :
    attach theme a n = .ok a := by
  rw [attachment?] at h
  rw [attach]
  split
  · rfl
  · rename_i c hc
    rw [hc] at h
    split
    · rename_i side target hside htarget
      rw [Option.any_some, Component.isAnchored, hside, Option.isSome_some, if_pos rfl,
        htarget] at h
      cases h
    · rfl

/-- What becomes of a component that is attached. -/
theorem attach_of_attachment?_eq_some {c e : Component} {side : Side}
    (htarget : attachment? a.components n = some t) (hc : a.components[n]? = some c)
    (hside : c.side = some side) (he : (a.identify t).components[t]? = some e)
    (hattach : attach theme a n = .ok b) :
    b.components = (a.identify t).components.set n (c.attachedTo e.identifier side) ∧
      b.identifiers = (a.identify t).identifiers ∧
      (c.variant.needsLayout = false ∧ b.layouts = (a.identify t).layouts ∨
        c.variant.needsLayout = true ∧ ∃ layout, anchorLayout theme side = .ok layout ∧
          b.layouts = Table.setIfAbsent side.layoutName layout (a.identify t).layouts) := by
  rw [attachment?, hc, Option.any_some, Component.isAnchored, hside, Option.isSome_some,
    if_pos rfl] at htarget
  rw [attach, hc] at hattach
  simp only [hside, htarget, he, Option.map_some, Option.getD_some] at hattach
  rw [Component.attachedTo]
  split at hattach
  · rename_i hneeds
    change c.variant.needsLayout = true at hneeds
    obtain ⟨layout, hlayout, hb⟩ := exceptBind_eq_ok hattach
    obtain rfl := Except.ok.inj hb
    refine ⟨?_, rfl, .inr ⟨hneeds, layout, hlayout, rfl⟩⟩
    dsimp only
    rw [if_pos hneeds]
  · rename_i hneeds
    change ¬c.variant.needsLayout = true at hneeds
    obtain rfl := Except.ok.inj hattach
    refine ⟨?_, rfl, .inl ⟨Bool.eq_false_iff.mpr hneeds, rfl⟩⟩
    dsimp only
    rw [if_neg hneeds]

namespace ResolvedUpTo

/-- Components stand at the same sides throughout, and so their targets stay the same. -/
theorem attachment?_eq (h : ResolvedUpTo theme cs layouts n a) (i : Nat) :
    attachment? a.components i = attachment? cs i := by
  refine attachment?_congr ?_ i
  refine List.ext_getElem? ?_
  intro j
  rw [List.getElem?_map, List.getElem?_map, h.components, Option.map_map]
  refine congrArg (Option.map · cs[j]?) (funext fun c => ?_)
  rw [Function.comp_apply, resolvedUpTo_eq]
  rfl

theorem identify_of_used (h : ResolvedUpTo theme cs layouts n a) (hn : attachment? cs n = some t)
    (hused : t ∈ targetsUpTo cs n) :
    a.identify t = a := by
  obtain ⟨c, hc, hside⟩ := (attachment?_eq_some_iff.mp hn).2.inFlowAt
  have htarget := h.components t
  rw [hc, Option.map_some, resolvedUpTo_of_inFlow hside, if_pos hused] at htarget
  rw [Anchoring.identify, htarget]
  dsimp only
  rw [Component.identifier_set]
  exact if_pos rfl

theorem identify_of_new (h : ResolvedUpTo theme cs layouts n a) (hfree : ∀ c ∈ cs, c.IsFree)
    (hn : attachment? cs n = some t) (hnew : t ∉ targetsUpTo cs n) {c : Component}
    (hc : cs[t]? = some c) :
    a.identify t = { a with
      components := a.components.set t (c.set "identifier" (targetName cs t))
      identifiers := a.identifiers + 1 } := by
  obtain ⟨e, he, hside⟩ := (attachment?_eq_some_iff.mp hn).2.inFlowAt
  obtain rfl := Option.some.inj (he.symm.trans hc)
  have htarget := h.components t
  rw [hc, Option.map_some, resolvedUpTo_of_inFlow hside, if_neg hnew] at htarget
  have hnone : e.identifier = .null := by
    rw [Component.identifier, (hfree e (List.mem_of_getElem? hc)).1]
    rfl
  -- The number that is made up is the place of the target among all targets.
  have hname : Json.str (componentIdentifier (a.identifiers + 1)) = targetName cs t := by
    rw [targetName, idxOf_targets hn hnew, h.identifiers]
  rw [Anchoring.identify, htarget]
  dsimp only
  rw [hnone, if_neg (by decide), hname]

/-- The target of the next component has its name once it is looked at, and nothing else changes. -/
theorem identify (h : ResolvedUpTo theme cs layouts n a) (hfree : ∀ c ∈ cs, c.IsFree)
    (hn : attachment? cs n = some t) :
    (∀ i, (a.identify t).components[i]? = cs[i]?.map fun c =>
        if i = t then c.set "identifier" (targetName cs t) else resolvedUpTo cs n i c) ∧
      (a.identify t).identifiers = (targetsUpTo cs (n + 1)).length ∧
      (a.identify t).layouts = a.layouts := by
  obtain ⟨c, hc, hside⟩ := (attachment?_eq_some_iff.mp hn).2.inFlowAt
  have htarget := h.components t
  rw [hc, Option.map_some, resolvedUpTo_of_inFlow hside] at htarget
  rw [targetsUpTo_succ, hn]
  dsimp only
  by_cases hused : t ∈ targetsUpTo cs n
  · rw [if_pos hused, h.identify_of_used hn hused]
    refine ⟨?_, h.identifiers, rfl⟩
    intro i
    rw [h.components]
    refine Option.map_congr ?_
    intro d hd
    split
    · rename_i hi
      subst hi
      rw [hc] at hd
      obtain rfl := Option.some.inj hd
      rw [resolvedUpTo_of_inFlow hside, if_pos hused]
    · rfl
  · rw [if_neg hused, h.identify_of_new hfree hn hused hc]
    refine ⟨?_, ?_, rfl⟩
    · intro i
      dsimp only
      rw [List.getElem?_set]
      by_cases hi : t = i
      · subst hi
        rw [if_pos rfl, if_pos (List.getElem?_eq_some_iff.mp htarget).1, hc, Option.map_some,
          if_pos rfl]
      · rw [if_neg hi, h.components]
        exact Option.map_congr fun d _ => (if_neg (Ne.symm hi)).symm
    · rw [List.length_append, ← h.identifiers]
      rfl

/-- The layout of a component that is attached is entered where its name is not taken. -/
theorem layouts_setIfAbsent (h : ResolvedUpTo theme cs layouts n a) {side : Side} {layout : Json}
    (hlayout : anchorLayout theme side = .ok layout) :
    Table.get? side.layoutName (Table.setIfAbsent side.layoutName layout a.layouts) =
      some ((Table.get? side.layoutName layouts).getD layout) := by
  rw [Table.get?_setIfAbsent, if_pos rfl]
  by_cases hused : ∃ i, i < n ∧ NeedsLayoutAt cs i side
  · obtain ⟨i, hi, hneeds⟩ := hused
    obtain ⟨known, hknown, hget⟩ := h.registered i side hi hneeds
    obtain rfl := Except.ok.inj (hlayout.symm.trans hknown)
    rw [hget, Option.some_or]
  · have hkept : Table.get? side.layoutName a.layouts = Table.get? side.layoutName layouts := by
      refine h.kept side.layoutName ?_
      intro i other hi hneeds hname
      obtain rfl := Side.layoutName_injective hname
      exact hused ⟨i, hi, hneeds⟩
    rw [hkept]
    cases Table.get? side.layoutName layouts <;> rfl

/-- A position at which nothing is attached needs no work. -/
theorem skip (h : ResolvedUpTo theme cs layouts n a) (hn : attachment? cs n = none) :
    ResolvedUpTo theme cs layouts (n + 1) a := by
  constructor
  case components =>
    intro i
    rw [h.components]
    refine Option.map_congr fun c _ => ?_
    exact (resolvedUpTo_succ (fun _ => hn) (by rw [hn]; exact nofun) c).symm
  case identifiers => rw [h.identifiers, targetsUpTo_succ, hn]
  case registered =>
    intro i side hi hneeds
    rcases Nat.lt_succ_iff_lt_or_eq.mp hi with hbefore | rfl
    · exact h.registered i side hbefore hneeds
    · obtain ⟨c, -, -, -, hsome⟩ := hneeds
      rw [hn] at hsome
      cases hsome
  case kept =>
    intro name hname
    exact h.kept name fun i side hi => hname i side (by omega)

/-- Once the target is named and the next component attached to it, the components are as they
have to be: one is named, one is attached, and no other one is any different. -/
theorem components_attached (h : ResolvedUpTo theme cs layouts n a) (hfree : ∀ c ∈ cs, c.IsFree)
    (hn : attachment? cs n = some t) {c : Component} (hc : cs[n]? = some c) {side : Side}
    (hside : c.side = some side) (i : Nat) :
    ((a.identify t).components.set n (c.attachedTo (targetName cs t) side))[i]? =
      cs[i]?.map (resolvedUpTo cs (n + 1) i) := by
  obtain ⟨hcomponents, -, -⟩ := h.identify hfree hn
  obtain ⟨e, he, heside⟩ := (attachment?_eq_some_iff.mp hn).2.inFlowAt
  rw [List.getElem?_set]
  by_cases hi : n = i
  · subst hi
    have hlength : n < (a.identify t).components.length :=
      (List.getElem?_eq_some_iff.mp ((hcomponents n).trans (by rw [hc]; rfl))).1
    rw [if_pos rfl, if_pos hlength, hc, Option.map_some,
      resolvedUpTo_of_beside hside (Nat.lt_succ_self n), hn]
  · rw [if_neg hi, hcomponents]
    refine Option.map_congr fun d hd => ?_
    split
    · rename_i hit
      subst hit
      rw [he] at hd
      obtain rfl := Option.some.inj hd
      rw [resolvedUpTo_of_inFlow heside,
        if_pos (mem_targetsUpTo.mpr ⟨n, Nat.lt_succ_self n, hn⟩)]
    · rename_i hit
      refine (resolvedUpTo_succ (fun hin => (hi hin.symm).elim) ?_ d).symm
      rw [hn]
      exact fun htarget => hit (Option.some.inj htarget).symm

/-- Attaching the next component brings its target and the component itself up to date. -/
theorem attach (h : ResolvedUpTo theme cs layouts n a) (hfree : ∀ c ∈ cs, c.IsFree)
    (hattach : Anchoring.attach theme a n = .ok b) :
    ResolvedUpTo theme cs layouts (n + 1) b := by
  cases hn : attachment? cs n with
  | none =>
      rw [attach_of_attachment?_eq_none ((h.attachment?_eq n).trans hn)] at hattach
      obtain rfl := Except.ok.inj hattach
      exact h.skip hn
  | some t =>
      obtain ⟨⟨c, hc, hbeside⟩, hnearest⟩ := attachment?_eq_some_iff.mp hn
      obtain ⟨side, hside⟩ := Option.ne_none_iff_exists'.mp hbeside
      obtain ⟨e, he, -⟩ := hnearest.inFlowAt
      obtain ⟨hcomponents, hidentifiers, hlayouts⟩ := h.identify hfree hn
      have hown : a.components[n]? = some c := by
        rw [h.components, hc, Option.map_some, resolvedUpTo_of_later hside (Nat.le_refl n)]
      have hnamed : (a.identify t).components[t]? =
          some (e.set "identifier" (targetName cs t)) := by
        rw [hcomponents, he, Option.map_some, if_pos rfl]
      obtain ⟨hb, hcount, hentered⟩ := attach_of_attachment?_eq_some
        ((h.attachment?_eq n).trans hn) hown hside hnamed hattach
      rw [Component.identifier_set] at hb
      rw [hlayouts] at hentered
      constructor
      case components =>
        intro i
        rw [hb]
        exact h.components_attached hfree hn hc hside i
      case identifiers => exact hcount.trans hidentifiers
      case registered =>
        intro i side' hi hneeds
        rcases Nat.lt_succ_iff_lt_or_eq.mp hi with hbefore | rfl
        · obtain ⟨layout, hlayout, hget⟩ := h.registered i side' hbefore hneeds
          refine ⟨layout, hlayout, ?_⟩
          -- What is entered now is behind what was entered for this one.
          rcases hentered with ⟨-, hsame⟩ | ⟨-, entered, -, hset⟩
          · rw [hsame, hget]
          · rw [hset, Table.get?_setIfAbsent, hget, Option.some_or]
        · obtain ⟨d, hd, hdside, hdneeds, -⟩ := hneeds
          obtain rfl := Option.some.inj (hd.symm.trans hc)
          obtain rfl := Option.some.inj (hdside.symm.trans hside)
          rcases hentered with ⟨hnot, -⟩ | ⟨-, layout, hlayout, hset⟩
          · rw [hdneeds] at hnot
            cases hnot
          · rw [hset]
            exact ⟨layout, hlayout, h.layouts_setIfAbsent hlayout⟩
      case kept =>
        intro name hname
        have hkept := h.kept name fun i side hi => hname i side (by omega)
        rcases hentered with ⟨-, hsame⟩ | ⟨hneeds, layout, -, hset⟩
        · rw [hsame, hkept]
        · have hne : side.layoutName ≠ name :=
            hname n side (Nat.lt_succ_self n) ⟨c, hc, hside, hneeds, by rw [hn]; rfl⟩
          rw [hset, Table.get?_setIfAbsent, if_neg hne, Option.or_none, hkept]

/-- What is resolved up to one position after the other is resolved in the end. -/
theorem of_resolveAnchors (hfree : ∀ c ∈ cs, c.IsFree)
    (h : resolveAnchors theme cs layouts = .ok a) :
    ResolvedUpTo theme cs layouts cs.length a := by
  have hrun : ∀ n a, (List.range n).foldlM (Anchoring.attach theme) ⟨cs, layouts, 0⟩ = .ok a →
      ResolvedUpTo theme cs layouts n a := by
    intro n
    induction n with
    | zero =>
        intro a ha
        obtain rfl := Except.ok.inj ha
        exact resolvedUpTo_zero theme cs layouts
    | succ n ih =>
        intro a ha
        rw [List.range_succ, List.foldlM_append] at ha
        obtain ⟨b, hb, hlast⟩ := exceptBind_eq_ok ha
        rw [List.foldlM_cons] at hlast
        obtain ⟨d, hd, hdone⟩ := exceptBind_eq_ok hlast
        obtain rfl := Except.ok.inj hdone
        exact (ih b hb).attach hfree hd
  exact hrun cs.length a h

end ResolvedUpTo

end Anchoring

end ArticleExport
