import ArticleExport.Proofs.Article.Attachment
import ArticleExport.Proofs.Article.References
import ArticleExport.Proofs.Article.Text
import ArticleExport.Proofs.Walk.Reach
import Mathlib.Data.List.Count
import Mathlib.Data.List.Perm.Basic

/-!
# The identifiers of an article

The fragments of an article have their identifiers from two sources: those that are made up for the
targets of anchors, and the ids of the items of footnotes.  The former are numbered and so differ
from each other.  Nothing keeps a footnote from having one of them as its id, and a made up
identifier stands for one fragment just if none has.
-/

namespace ArticleExport

/-- The identifiers that fragments carry, in their order. -/
def identifiersOf (fs : List Json) : List Json := fs.filterMap fun f => f.field? "identifier"

/-- The ids that the items of a list have. -/
def Node.itemIds (n : Node) : List Text :=
  (n.elementChildren.filter fun n => n.tag == Text.ofString "li").filterMap fun n => n.get? "id"

namespace Setup

/-- The ids of the notes that become of a node. -/
def noteIds (s : Setup) (n : Node) : List Text :=
  if n.isText then []
  else
    match s.match? n with
    | some (v, m) => if v.kind = .footnotes then m.itemIds else []
    | none => []

/-- The ids of the notes that become of nodes and of what is inside of them. -/
def noteIdsOf (s : Setup) (ns : List Node) : List Text := (s.reachedOf ns).flatMap s.noteIds

variable {s : Setup} {n m : Node} {v : Variant}

theorem noteIds_of_unmatched (h : n.isText ∨ s.match? n = none) : s.noteIds n = [] := by
  rw [noteIds]
  split
  · rfl
  · rename_i helement
    rw [h.resolve_left helement]

theorem noteIds_of_matched (helement : ¬n.isText) (h : s.match? n = some (v, m)) :
    s.noteIds n = if v.kind = .footnotes then m.itemIds else [] := by
  rw [noteIds, if_neg helement, h]

theorem noteIdsOf_append (s : Setup) (n : Node) (ns : List Node) :
    s.noteIdsOf (n :: ns) = s.noteIdsOf [n] ++ s.noteIdsOf ns := by
  rw [noteIdsOf, reachedOf_append, List.flatMap_append]
  rfl

theorem noteIdsOf_alone (h : s.reachedOf [n] = [n]) : s.noteIdsOf [n] = s.noteIds n := by
  rw [noteIdsOf, h, List.flatMap_singleton]

theorem noteIdsOf_into (h : s.reachedOf [n] = n :: s.reachedOf n.children) :
    s.noteIdsOf [n] = s.noteIds n ++ s.noteIdsOf n.children := by
  rw [noteIdsOf, h, List.flatMap_cons]
  rfl

end Setup

/-! ## Identifiers from the content -/

theorem identifiersOf_append (fs gs : List Json) :
    identifiersOf (fs ++ gs) = identifiersOf fs ++ identifiersOf gs := List.filterMap_append

/-- The notes of items carry the ids of these. -/
theorem identifiersOf_numberedNotes (theme : Theme) (number : Nat) (items : List Node) :
    identifiersOf (Json.fragmentsOf (numberedNotes theme number items)) =
      (items.filterMap fun n => n.get? "id").map .str := by
  induction items generalizing number with
  | nil => rfl
  | cons item items ih =>
      rw [numberedNotes, Json.fragmentsOf, identifiersOf_append, ih, note_eq]
      cases hid : item.get? "id" with
      | none =>
          rw [List.filterMap_cons, hid]
          rfl
      | some id =>
          rw [List.filterMap_cons, hid]
          rfl

section Made

variable {settings : Settings} {theme : Theme} {n : Node} {k : Kind} {parts : List Json}
  {json : Table Json} {l : Ledger}

theorem get?_identifier_of_makes (h : k.Makes settings theme n parts json l) :
    Table.get? "identifier" json = none := by
  have hphoto (address layout : Text) :
      Table.get? "identifier" (photoFields n address layout) = none :=
    get?_photoFields (by decide) n address layout
  cases h with
  | body => rfl
  | heading => rfl
  | divider => rfl
  | remotePhoto => exact hphoto _ _
  | bundledPhoto => exact hphoto _ _
  | pullquote => rfl
  | blockquote => rfl
  | footnotes => rfl
  | aside => rfl

/-- What is inside of a fragment carries the ids of the notes, or the identifiers of the parts. -/
theorem identifiersOf_inside_of_makes (h : k.Makes settings theme n parts json l) :
    identifiersOf (Json.fragmentsUnder json) =
      if k = .footnotes then n.itemIds.map .str else identifiersOf (Json.fragmentsOf parts) := by
  have hnone {entries : Table Json} (hentries : Table.get? componentsKey entries = none) :
      identifiersOf (Json.fragmentsUnder entries) = [] := by
    rw [Json.fragmentsUnder_of_get?_eq_none hentries]
    rfl
  have hphoto (address layout : Text) :
      identifiersOf (Json.fragmentsUnder (photoFields n address layout)) = [] :=
    hnone (get?_photoFields (by decide) n address layout)
  cases h with
  | body => exact hnone rfl
  | heading => exact hnone rfl
  | divider => exact hnone rfl
  | remotePhoto => exact hphoto _ _
  | bundledPhoto => exact hphoto _ _
  | pullquote => exact hnone rfl
  | blockquote => exact hnone rfl
  | footnotes => exact identifiersOf_numberedNotes theme 1 _
  | aside => rfl

end Made

theorem identifiersOf_fragments {c : Component} (h : c.IsFree) :
    identifiersOf c.fragments = identifiersOf (Json.fragmentsUnder c.json) := by
  rw [c.fragments_eq]
  exact List.filterMap_cons_none h.1

theorem identifiersOf_flatMap (cs : List Component) :
    identifiersOf (cs.flatMap Component.fragments) =
      cs.flatMap fun c => identifiersOf c.fragments := List.filterMap_flatMap

section Walk

variable {settings : Settings} {theme : Theme}

/-- What is built has no identifier and no anchor of its own. -/
theorem identifiersOf_of_builds (htheme : theme.HasNoTemplates) {v : Variant} {n : Node}
    {parts : List Component} {c : Component} {l : Ledger} (hv : v ∈ Variant.standard)
    (hparts : v.isParent ∨ parts = [])
    (h : (Setup.standard settings theme).Builds v n parts c l) :
    c.IsFree ∧ identifiersOf c.fragments =
      if v.kind = .footnotes then n.itemIds.map .str
      else identifiersOf (parts.flatMap Component.fragments) := by
  obtain ⟨hmakes, -⟩ := h.makes htheme hv hparts
  have hfree : c.IsFree := ⟨get?_identifier_of_makes hmakes, (settled_of_makes hmakes).free⟩
  refine ⟨hfree, ?_⟩
  rw [identifiersOf_fragments hfree, identifiersOf_inside_of_makes hmakes, fragmentsOf_map_fragment]

/-- The components of a walk carry the ids of the notes, in their order, and nothing else. -/
theorem identifiersOf_of_yields (htheme : theme.HasNoTemplates) {ns : List Node}
    {cs : List Component} {l : Ledger} (h : (Setup.standard settings theme).Yields ns cs l) :
    (∀ c ∈ cs, c.IsFree) ∧ identifiersOf (cs.flatMap Component.fragments) =
      ((Setup.standard settings theme).noteIdsOf ns).map .str := by
  have hsingle {c : Component} {ids : List Json} (hc : c.IsFree ∧ identifiersOf c.fragments = ids) :
      (∀ d ∈ [c], d.IsFree) ∧ identifiersOf ([c].flatMap Component.fragments) = ids := by
    rw [List.flatMap_singleton]
    exact ⟨List.forall_mem_singleton.mpr hc.1, hc.2⟩
  induction h with
  | nil => exact ⟨nofun, rfl⟩
  | cons first rest ih ih' =>
      constructor
      · intro c hc
        exact (List.mem_append.mp hc).elim (ih.1 c) (ih'.1 c)
      · rw [List.flatMap_append, identifiersOf_append, ih.2, ih'.2, ← List.map_append,
          ← Setup.noteIdsOf_append]
  | blank isText dropped =>
      refine ⟨nofun, ?_⟩
      rw [Setup.noteIdsOf_alone (Setup.reachedOf_of_isText isText),
        Setup.noteIds_of_unmatched (.inl isText)]
      rfl
  | loose visible inText builds =>
      rw [Setup.noteIdsOf_alone (Setup.reachedOf_of_inText rfl visible inText),
        Setup.noteIds_of_unmatched (inText.imp_right And.left)]
      exact hsingle (identifiersOf_of_builds htheme (by decide) (.inr rfl) builds)
  | unsupported isElement unmatched tag =>
      refine ⟨nofun, ?_⟩
      rw [Setup.noteIdsOf_alone (Setup.reachedOf_of_unsupported unmatched tag),
        Setup.noteIds_of_unmatched (.inr unmatched)]
      rfl
  | inside isElement unmatched supported notInText children ih =>
      rw [Setup.noteIdsOf_into
          (Setup.reachedOf_of_inside isElement unmatched supported notInText),
        Setup.noteIds_of_unmatched (.inr unmatched)]
      exact ih
  | plain isElement matched isPlain builds =>
      rw [Setup.noteIdsOf_alone (Setup.reachedOf_of_plain matched isPlain),
        Setup.noteIds_of_matched isElement matched]
      obtain ⟨hfree, hids⟩ := identifiersOf_of_builds htheme
        (Setup.of_match?_eq_some matched).1 (.inr rfl) builds
      refine hsingle ⟨hfree, hids.trans ?_⟩
      split
      · rfl
      · rfl
  | parent isElement matched isParent children builds ih =>
      have haside := beq_iff_eq.mp isParent
      rw [Setup.noteIdsOf_into (Setup.reachedOf_of_parent isElement matched isParent),
        Setup.noteIds_of_matched isElement matched, haside,
        if_neg (by decide)]
      obtain ⟨hfree, hids⟩ := identifiersOf_of_builds htheme
        (Setup.of_match?_eq_some matched).1 (.inl isParent) builds
      rw [haside, if_neg (by decide)] at hids
      exact hsingle ⟨hfree, hids.trans ih.2⟩

end Walk

/-! ## Identifiers that are made up -/

/-- The first identifiers that are made up. -/
def issuedNames (n : Nat) : List Text := (List.range n).map fun k => componentIdentifier (k + 1)

theorem nodup_issuedNames (n : Nat) : (issuedNames n).Nodup :=
  List.nodup_range.map fun _ _ h => Nat.succ.inj (componentIdentifier_injective h)

namespace Anchoring

variable {theme : Theme} {cs : List Component} {layouts : Table Json} {a : Anchoring} {i : Nat}
  {c : Component}

theorem fragmentsUnder_attachedTo (c : Component) (name : Json) (side : Side) :
    Json.fragmentsUnder (c.attachedTo name side).json = Json.fragmentsUnder c.json := by
  have hset (d : Component) {key : Text} (hkey : key ≠ componentsKey) (value : Json) :
      Json.fragmentsUnder (d.set key value).json = Json.fragmentsUnder d.json :=
    Json.fragmentsUnder_set hkey value d.json
  rw [Component.attachedTo]
  split
  · rw [hset _ (by decide), hset _ (by decide)]
  · rw [hset _ (by decide)]

/-- Resolving anchors leaves the fragments inside of a component alone. -/
theorem fragmentsUnder_resolvedUpTo (cs : List Component) (n i : Nat) (c : Component) :
    Json.fragmentsUnder (resolvedUpTo cs n i c).json = Json.fragmentsUnder c.json := by
  rw [resolvedUpTo]
  split
  · split
    · exact Json.fragmentsUnder_set (by decide) _ c.json
    · rfl
  · split
    · exact fragmentsUnder_attachedTo c _ _
    · rfl

/-- The name that is made up for the component at a position, where it is a target. -/
def issuedAt (cs : List Component) (i : Nat) : List Json :=
  if i ∈ targets cs then [targetName cs i] else []

/-- A component carries the name made up for it in front of the identifiers inside of it. -/
theorem identifiersOf_resolvedUpTo (h : ResolvedUpTo theme cs layouts cs.length a)
    (hfree : ∀ c ∈ cs, c.IsFree) (hc : cs[i]? = some c) :
    identifiersOf (resolvedUpTo cs cs.length i c).fragments =
      issuedAt cs i ++ identifiersOf c.fragments := by
  have hbecomes : Becomes cs a i c (resolvedUpTo cs cs.length i c) :=
    ⟨hc, by rw [h.components, hc, Option.map_some]⟩
  have hown := hbecomes.get?_identifier h hfree
  rw [Component.fragments_eq, fragmentsUnder_resolvedUpTo,
    identifiersOf_fragments (hfree c (List.mem_of_getElem? hc)), issuedAt]
  split
  · rename_i htarget
    rw [if_pos htarget] at hown
    exact List.filterMap_cons_some hown
  · rename_i htarget
    rw [if_neg htarget] at hown
    exact List.filterMap_cons_none hown

theorem components_eq_mapIdx (h : ResolvedUpTo theme cs layouts cs.length a) :
    a.components = cs.mapIdx (resolvedUpTo cs cs.length) := by
  refine List.ext_getElem? fun i => ?_
  rw [h.components, List.getElem?_mapIdx]

/-- The names made up are those of the targets, in another order. -/
theorem issuedAt_perm (cs : List Component) :
    ((List.range cs.length).flatMap (issuedAt cs)).Perm
      ((issuedNames (targets cs).length).map .str) := by
  -- Both lists have the names of all targets, by their positions here and by their first use there.
  have hfilter : (List.range cs.length).flatMap (issuedAt cs) =
      ((List.range cs.length).filter (· ∈ targets cs)).map (targetName cs) := by
    induction List.range cs.length with
    | nil => rfl
    | cons i is ih =>
        rw [List.flatMap_cons, ih, issuedAt]
        split
        · rename_i hi
          rw [List.filter_cons, if_pos (decide_eq_true hi)]
          rfl
        · rename_i hi
          rw [List.filter_cons, if_neg (by rwa [decide_eq_true_iff])]
          rfl
  have hnames : (targets cs).map (targetName cs) = (issuedNames (targets cs).length).map .str := by
    refine List.ext_getElem (by simp [issuedNames]) ?_
    intro k hk _
    rw [List.length_map] at hk
    simp only [List.getElem_map, issuedNames, List.getElem_range, targetName,
      (nodup_targets cs).idxOf_getElem k hk]
  rw [hfilter, ← hnames]
  refine List.Perm.map _ ((List.perm_ext_iff_of_nodup ?_ (nodup_targets cs)).mpr ?_)
  · exact List.nodup_range.filter _
  · intro t
    rw [List.mem_filter, List.mem_range, decide_eq_true_iff]
    constructor
    · exact And.right
    · intro ht
      obtain ⟨i, hi⟩ := mem_targets.mp ht
      exact ⟨hi.2.inFlowAt.lt_length, ht⟩

/-- Resolving anchors adds the made up names to the identifiers that there are. -/
theorem identifiersOf_perm (h : ResolvedUpTo theme cs layouts cs.length a)
    (hfree : ∀ c ∈ cs, c.IsFree) :
    (identifiersOf (a.components.flatMap Component.fragments)).Perm
      ((issuedNames a.identifiers).map .str ++
        identifiersOf (cs.flatMap Component.fragments)) := by
  have hpointwise : identifiersOf (a.components.flatMap Component.fragments) =
      cs.zipIdx.flatMap fun p => issuedAt cs p.2 ++ identifiersOf p.1.fragments := by
    rw [identifiersOf_flatMap, components_eq_mapIdx h, List.mapIdx_eq_zipIdx_map,
      List.flatMap_map]
    refine List.flatMap_congr fun p hp => ?_
    exact identifiersOf_resolvedUpTo h hfree (List.mem_zipIdx_iff_getElem?.mp hp)
  have hinside : cs.zipIdx.flatMap (fun p => identifiersOf p.1.fragments) =
      identifiersOf (cs.flatMap Component.fragments) := by
    rw [identifiersOf_flatMap, ← List.flatMap_map Prod.fst fun c : Component =>
      identifiersOf c.fragments, List.zipIdx_map_fst]
  have hissued : cs.zipIdx.flatMap (fun p => issuedAt cs p.2) =
      (List.range cs.length).flatMap (issuedAt cs) := by
    rw [← List.flatMap_map Prod.snd (issuedAt cs), List.zipIdx_map_snd, List.range_eq_range']
  -- Each component has its name in front of what is inside of it; all names are moved to the front.
  rw [hpointwise, ← hinside, h.identifiers]
  refine (List.flatMap_append_perm _ _ _).symm.trans (List.Perm.append_right _ ?_)
  rw [hissued]
  exact issuedAt_perm cs

/-- An anchor leads to a name that is made up. -/
theorem exists_issued_of_anchor (h : ResolvedUpTo theme cs layouts cs.length a)
    (hfree : ∀ c ∈ cs, c.IsFree)
    (hinside : ∀ c ∈ cs, ∀ f ∈ Json.fragmentsUnder c.json, f.field? "anchor" = none)
    {d : Component} (hd : d ∈ a.components) {f v : Json} (hf : f ∈ d.fragments)
    (hv : f.field? "anchor" = some v) :
    ∃ name ∈ issuedNames a.identifiers,
      v.field? "targetComponentIdentifier" = some (.str name) := by
  obtain ⟨i, hi⟩ := List.mem_iff_getElem?.mp hd
  obtain ⟨c, hc, hcd⟩ := Option.map_eq_some_iff.mp ((h.components i).symm.trans hi)
  have hbecomes : Becomes cs a i c d := ⟨hc, hi⟩
  have hmem := List.mem_of_getElem? hc
  rw [Component.fragments_eq, ← hcd, fragmentsUnder_resolvedUpTo] at hf
  rcases List.mem_cons.mp hf with rfl | hunder
  · rw [hcd] at hv
    have hanchored : Table.get? "anchor" d.json = some v := hv
    cases hside : c.side with
    | none =>
        rw [hbecomes.get?_anchor_of_inFlow h hfree hside] at hanchored
        cases hanchored
    | some side =>
        rcases hbecomes.cases_of_beside h hside with ⟨-, rfl⟩ | ⟨t, ht, rfl⟩
        · rw [(hfree d hmem).2] at hanchored
          cases hanchored
        · rw [Component.get?_attachedTo, if_neg fun hboth => absurd hboth.1 (by decide),
            if_pos rfl] at hanchored
          obtain rfl := Option.some.inj hanchored
          refine ⟨_, ?_, rfl⟩
          rw [h.identifiers, issuedNames]
          refine List.mem_map.mpr ⟨(targets cs).idxOf t, List.mem_range.mpr ?_, rfl⟩
          exact List.idxOf_lt_length_of_mem (mem_targets.mpr ⟨i, ht⟩)
  · rw [hinside c hmem f hunder] at hv
    cases hv

end Anchoring

/-! ## Articles -/

/-- The fragments of an article, at every depth, that carry a name. -/
def carriers (article : Table Json) (name : Text) : List Json :=
  (allFragments article).filter fun f => f.field? "identifier" == some (.str name)

/-- How many identifiers a run over content makes up. -/
def Setup.issued? (s : Setup) (root : Node) : Option Nat := do
  let cs ← (s.components root).result.toOption
  let a ← (resolveAnchors s.theme cs (s.components root).ledger.layouts).toOption
  return a.identifiers

/-- Where the identifiers of an article are from, and which of them are unambiguous. -/
structure IdentifiedBy (article : Table Json) (issued notes : List Text) : Prop where
  carried : (identifiersOf (allFragments article)).Perm ((issued ++ notes).map .str)
  nodup : issued.Nodup
  /-- A made up identifier stands for one fragment just if no note has it. -/
  unique : ∀ name ∈ issued, (carriers article name).length = 1 ↔ name ∉ notes
  anchors : ∀ f ∈ allFragments article, ∀ v, f.field? "anchor" = some v →
    ∃ name ∈ issued, v.field? "targetComponentIdentifier" = some (.str name)

theorem Setup.issued?_of_ok {s : Setup} {root : Node} {cs : List Component} {a : Anchoring}
    (hcs : (s.components root).result = .ok cs)
    (ha : resolveAnchors s.theme cs (s.components root).ledger.layouts = .ok a) :
    s.issued? root = some a.identifiers := by
  rw [issued?, hcs]
  change (resolveAnchors s.theme cs (s.components root).ledger.layouts).toOption.bind _ = _
  rw [ha]
  rfl

theorem length_carriers (article : Table Json) (name : Text) :
    (carriers article name).length = (identifiersOf (allFragments article)).count (.str name) := by
  rw [carriers, identifiersOf, List.count_filterMap, List.countP_eq_length_filter]

theorem length_carriers_eq_one_iff {article : Table Json} {issued notes : List Text}
    (hcarried : (identifiersOf (allFragments article)).Perm ((issued ++ notes).map .str))
    (hnodup : issued.Nodup) {name : Text} (hname : name ∈ issued) :
    (carriers article name).length = 1 ↔ name ∉ notes := by
  have hinjective : Function.Injective Json.str := fun _ _ => Json.str.inj
  rw [length_carriers, hcarried.count_eq, List.count_map_of_injective _ _ hinjective,
    List.count_append, List.count_eq_one_of_mem hnodup hname, ← List.count_eq_zero]
  omega

/-- Whatever the content, the settings and the values of the theme: the identifiers of an article
that comes about without templates are those made up in the run and the ids of its notes. -/
theorem identifiedBy_of_assemble (settings : Settings) (themes : ThemeStore)
    (sections : List Key) (htheme : (themes.used sections).HasNoTemplates) (root : Node)
    (info : ArticleInfo) (r : ExportResult)
    (h : (⟨settings, themes, Variant.standard, .empty⟩ : Assembler).assemble root sections info =
      .ok r) :
    ∃ n, (Setup.standard settings (themes.used sections)).issued? root = some n ∧
      IdentifiedBy r.article (issuedNames n)
        ((Setup.standard settings (themes.used sections)).noteIdsOf root.children) := by
  obtain ⟨cs, a, hcs, ha, rfl⟩ := Setup.assemble_eq_ok h
  obtain ⟨before, l, after, hyields, -⟩ := Setup.yields_of_components htheme hcs
  obtain ⟨hfree, hnotes⟩ := identifiersOf_of_yields htheme hyields
  have hsettled := settled_of_yields htheme hyields
  have hresolved := Anchoring.ResolvedUpTo.of_resolveAnchors hfree ha
  have htop : topFragments ((Setup.standard settings (themes.used sections)).article info
      ((Setup.standard settings (themes.used sections)).components root).ledger
      a.components a.layouts) = a.components.map Component.fragment := rfl
  have hcarried := Anchoring.identifiersOf_perm hresolved hfree
  rw [hnotes, ← List.map_append, ← fragmentsOf_map_fragment, ← htop] at hcarried
  refine ⟨a.identifiers, Setup.issued?_of_ok hcs ha, hcarried, nodup_issuedNames _, ?_, ?_⟩
  · intro name hname
    exact length_carriers_eq_one_iff hcarried (nodup_issuedNames _) hname
  · intro f hf v hv
    have hfragments : f ∈ a.components.flatMap Component.fragments := by
      rw [← fragmentsOf_map_fragment, ← htop]
      exact hf
    obtain ⟨d, hd, hfd⟩ := List.mem_flatMap.mp hfragments
    refine Anchoring.exists_issued_of_anchor hresolved hfree ?_ hd hfd hv
    intro c hc g hg
    refine ((hsettled c hc).1 g ?_).free
    rw [c.fragments_eq]
    exact .tail _ hg

/-- An aside that is anchored at a paragraph, and a footnote with an id. -/
theorem identifiedBy_of_anchored_aside :
    let assembler : Assembler :=
      ⟨{ Settings.default with asideClass := "box" }, .initial, Variant.standard, .empty⟩
    let root : Node := .root [.element "div" [("class", "box")] [.ofText "Aside"],
      .element "p" [] [.ofText "Body"],
      .element "ol" [("class", "wp-block-footnotes")]
        [.element "li" [("id", "note-1")] [.ofText "Note"]]]
    let s := Setup.standard assembler.settings (ThemeStore.initial.used [])
    ∃ r n, assembler.assemble root [] .default = .ok r ∧ s.issued? root = some n ∧
      IdentifiedBy r.article (issuedNames n) (s.noteIdsOf root.children) := by
  intro assembler root s
  obtain ⟨r, hr⟩ := exists_of_isOk
    (show (assembler.assemble root [] .default).isOk = true by decide +kernel)
  obtain ⟨n, hn, hidentified⟩ := identifiedBy_of_assemble assembler.settings .initial []
    (ThemeStore.hasNoTemplates_initial []) root .default r hr
  exact ⟨r, n, hr, hn, hidentified⟩

/-- A footnote whose id is the identifier that is made up for the paragraph. -/
theorem two_carriers_of_note_under_made_up_name :
    let assembler : Assembler :=
      ⟨{ Settings.default with asideClass := "box" }, .initial, Variant.standard, .empty⟩
    let root : Node := .root [.element "div" [("class", "box")] [.ofText "Aside"],
      .element "p" [] [.ofText "Body"],
      .element "ol" [("class", "wp-block-footnotes")]
        [.element "li" [("id", "component-1")] [.ofText "Note"]]]
    (Setup.standard assembler.settings (ThemeStore.initial.used [])).issued? root = some 1 ∧
      ∃ r, assembler.assemble root [] .default = .ok r ∧
        (carriers r.article (componentIdentifier 1)).length = 2 := by
  intro assembler root
  have hholds :
      ((Setup.standard assembler.settings (ThemeStore.initial.used [])).issued? root == some 1 &&
        (assembler.assemble root [] .default).toOption.any fun r =>
          (carriers r.article (componentIdentifier 1)).length == 2) = true := by
    decide +kernel
  obtain ⟨hissued, htwo⟩ := (Bool.and_eq_true _ _).mp hholds
  obtain ⟨r, hr, hcarriers⟩ := exists_of_holds htwo
  exact ⟨beq_iff_eq.mp hissued, r, hr, beq_iff_eq.mp hcarriers⟩

end ArticleExport
