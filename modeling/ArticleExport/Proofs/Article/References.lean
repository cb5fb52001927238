import ArticleExport.Proofs.Article.Anchors
import ArticleExport.Proofs.Article.Assembly

/-!
# An article refers to nothing but itself

The layout, the text style and the style of every fragment are entered in the article
that holds the fragment, and every anchor leads to a component of the article that is
not anchored itself.  A fragment refers to names from the moment its component is
built, and the entries of its component are in the ledger by then; what is entered
later takes no name away.
-/

namespace ArticleExport

/-! ## References of single fragments -/

/-- Whether a property of a fragment is missing, or one of the given names. -/
def Json.NamesIn (f : Json) (property : Text) (names : List Text) : Prop :=
  ∀ v, f.field? property = some v → ∃ name ∈ names, v = .str name

/-- Whether the layout and the styles of a fragment are among the given names. -/
structure Json.RefersTo (f : Json) (layouts textStyles styles : List Text) : Prop where
  layout : f.NamesIn "layout" layouts
  textStyle : f.NamesIn "textStyle" textStyles
  style : f.NamesIn "style" styles

/-- Whether a fragment refers to entries of a ledger and has no anchor. -/
structure Json.Settled (f : Json) (l : Ledger) : Prop where
  refers : f.RefersTo (Table.keys l.layouts) (Table.keys l.textStyles)
    (Table.keys l.componentStyles)
  free : f.field? "anchor" = none

theorem Json.NamesIn.mono
    {f : Json} {property : Text} {names more : List Text} (h : f.NamesIn property names)
    (hmore : names ⊆ more) :
    f.NamesIn property more := by
  intro v hv
  obtain ⟨name, hname, rfl⟩ := h v hv
  exact ⟨name, hmore hname, rfl⟩

theorem Json.RefersTo.mono
    {f : Json} {layouts textStyles styles layouts' textStyles' styles' : List Text}
    (h : f.RefersTo layouts textStyles styles) (hlayouts : layouts ⊆ layouts')
    (htextStyles : textStyles ⊆ textStyles') (hstyles : styles ⊆ styles') :
    f.RefersTo layouts' textStyles' styles' :=
  ⟨h.layout.mono hlayouts, h.textStyle.mono htextStyles, h.style.mono hstyles⟩

theorem Json.NamesIn.of_none
    {f : Json} {property : Text} (h : f.field? property = none) (names : List Text) :
    f.NamesIn property names := by
  intro v hv
  rw [h] at hv
  cases hv

theorem Json.NamesIn.of_some
    {f : Json} {property name : Text} {names : List Text} (h : f.field? property = some (.str name))
    (hname : name ∈ names) :
    f.NamesIn property names := by
  intro v hv
  rw [h] at hv
  exact ⟨name, hname, (Option.some.inj hv).symm⟩

theorem Table.keys_subset_merge_left {α : Type} (s t : Table α) :
    Table.keys s ⊆ Table.keys (s.merge t) :=
  fun _ h => Table.mem_keys_merge.mpr (.inl h)

theorem Table.keys_subset_merge_right {α : Type} (s t : Table α) :
    Table.keys t ⊆ Table.keys (s.merge t) :=
  fun _ h => Table.mem_keys_merge.mpr (.inr h)

theorem Json.RefersTo.withLayout
    {f : Json} {layouts : Table Json} {textStyles styles : List Text}
    (h : f.RefersTo (Table.keys layouts) textStyles styles) (name : Text) (layout : Json) :
    f.RefersTo (Table.keys (Table.setIfAbsent name layout layouts)) textStyles styles :=
  h.mono (fun _ hn => Table.mem_keys_setIfAbsent.mpr (.inl hn)) (List.Subset.refl _)
    (List.Subset.refl _)

theorem Json.Settled.merge_left {f : Json} {l : Ledger} (h : f.Settled l) (m : Ledger) :
    f.Settled (l.merge m) where
  refers := h.refers.mono (Table.keys_subset_merge_left _ _) (Table.keys_subset_merge_left _ _)
    (Table.keys_subset_merge_left _ _)
  free := h.free

theorem Json.Settled.merge_right {f : Json} {m : Ledger} (h : f.Settled m) (l : Ledger) :
    f.Settled (l.merge m) where
  refers := h.refers.mono (Table.keys_subset_merge_right _ _) (Table.keys_subset_merge_right _ _)
    (Table.keys_subset_merge_right _ _)
  free := h.free

/-! ## Fragments are settled when their components are built -/

theorem settled_of_makes
    {settings : Settings} {theme : Theme} {n : Node} {k : Kind} {parts : List Json}
    {json : Table Json} {l : Ledger} (h : k.Makes settings theme n parts json l) :
    (Json.obj json).Settled l := by
  have hphoto (address : Text) (bundles : List Text) :
      (Json.obj (photoFields n address (photoLayout settings theme).1)).Settled
        ⟨[], [photoLayout settings theme], [], bundles, []⟩ := by
    let layout := (photoLayout settings theme).1
    have hfield {name : Text} (hname : name ≠ "caption") :
        (Json.obj (photoFields n address layout)).field? name =
          Table.get? name (bareFields address layout) :=
      get?_photoFields hname n address layout
    exact ⟨⟨.of_some (hfield (by decide)) (.head _), .of_none (hfield (by decide)) _,
      .of_none (hfield (by decide)) _⟩, hfield (by decide)⟩
  cases h with
  | body => exact ⟨⟨.of_some rfl (.head _), .of_some rfl (.head _), .of_none rfl _⟩, rfl⟩
  | heading => exact ⟨⟨.of_some rfl (.head _), .of_some rfl (.head _), .of_none rfl _⟩, rfl⟩
  | divider => exact ⟨⟨.of_some rfl (.head _), .of_none rfl _, .of_none rfl _⟩, rfl⟩
  | remotePhoto => exact hphoto _ _
  | bundledPhoto => exact hphoto _ _
  | pullquote => exact ⟨⟨.of_some rfl (.head _), .of_some rfl (.head _), .of_none rfl _⟩, rfl⟩
  | blockquote =>
      exact ⟨⟨.of_some rfl (.head _), .of_some rfl (.head _), .of_some rfl (.head _)⟩, rfl⟩
  | footnotes => exact ⟨⟨.of_some rfl (.head _), .of_none rfl _, .of_none rfl _⟩, rfl⟩
  | aside => exact ⟨⟨.of_some rfl (.head _), .of_none rfl _, .of_some rfl (.head _)⟩, rfl⟩

/-- A note is a fragment of text, with an identifier where its item has one. -/
theorem note_eq (theme : Theme) (text : Text) (identifier : Json) :
    Kind.footnotes.resolved theme "footnote-json"
        [("text", .str text), ("identifier", identifier)] =
      textFields "body" (.str text)
        (if identifier.isNull then [] else [("identifier", identifier)]) := rfl

theorem settled_of_mem_numberedNotes
    {theme : Theme} {number : Nat} {items : List Node} {f : Json}
    (h : f ∈ Json.fragmentsOf (numberedNotes theme number items)) (l : Ledger) :
    f.Settled l := by
  induction items generalizing number with
  | nil => cases h
  | cons item items ih =>
      rw [numberedNotes, Json.fragmentsOf, List.mem_append] at h
      rcases h with hnote | hrest
      · rw [note_eq, textFields] at hnote
        split at hnote
        · rw [Json.fragments_obj, Json.fragmentsUnder_of_get?_eq_none rfl] at hnote
          obtain rfl := List.mem_singleton.mp hnote
          exact ⟨⟨.of_none rfl _, .of_none rfl _, .of_none rfl _⟩, rfl⟩
        · rw [Json.fragments_obj, Json.fragmentsUnder_of_get?_eq_none rfl] at hnote
          obtain rfl := List.mem_singleton.mp hnote
          exact ⟨⟨.of_none rfl _, .of_none rfl _, .of_none rfl _⟩, rfl⟩
      · exact ih hrest

/-- The fragments inside what is built are those of the components inside it, and footnotes. -/
theorem settled_inside_of_makes
    {settings : Settings} {theme : Theme} {n : Node} {k : Kind} {parts : List Json}
    {json : Table Json} {l m : Ledger} (h : k.Makes settings theme n parts json l)
    (hparts : ∀ f ∈ Json.fragmentsOf parts, f.Settled m) :
    ∀ f ∈ Json.fragmentsUnder json, f.Settled m := by
  have hnone {entries : Table Json} (hentries : Table.get? componentsKey entries = none) :
      ∀ f ∈ Json.fragmentsUnder entries, f.Settled m := by
    intro f hf
    rw [Json.fragmentsUnder_of_get?_eq_none hentries] at hf
    cases hf
  have hphoto (address layout : Text) :
      Table.get? componentsKey (photoFields n address layout) = none :=
    get?_photoFields (by decide) n address layout
  cases h with
  | body => exact hnone rfl
  | heading => exact hnone rfl
  | divider => exact hnone rfl
  | remotePhoto => exact hnone (hphoto _ _)
  | bundledPhoto => exact hnone (hphoto _ _)
  | pullquote => exact hnone rfl
  | blockquote => exact hnone rfl
  | footnotes => exact fun f hf => settled_of_mem_numberedNotes hf m
  | aside => exact hparts

/-- No component in the flow is an aside. -/
theorem role_ne_aside_of_makes
    {settings : Settings} {theme : Theme} {n : Node} {k : Kind} {parts : List Json}
    {json : Table Json} {l : Ledger} (h : k.Makes settings theme n parts json l) (hk : k ≠ .aside) :
    (Json.obj json).field? "role" ≠ some "aside" := by
  have hother (role : Text) (hrole : role.head? ≠ some (.scalar 'a'))
      (hfield : (Json.obj json).field? "role" = some (.str role)) :
      (Json.obj json).field? "role" ≠ some "aside" := by
    rw [hfield]
    intro heq
    exact hrole (congrArg List.head? (Json.str.inj (Option.some.inj heq)))
  cases h with
  | body => exact hother "body" (by decide) rfl
  | heading => exact hother (("heading" : Text) ++ _) (by exact nofun) rfl
  | divider => exact hother "divider" (by decide) rfl
  | remotePhoto => exact hother "photo" (by decide) rfl
  | bundledPhoto => exact hother "photo" (by decide) rfl
  | pullquote => exact hother "pullquote" (by decide) rfl
  | blockquote => exact hother "quote" (by decide) rfl
  | footnotes => exact hother "container" (by decide) rfl
  | aside => exact (hk rfl).elim

/-- A component that is built refers to what is entered for it. -/
theorem settled_of_builds
    {settings : Settings} {theme : Theme} (htheme : theme.HasNoTemplates) {v : Variant} {n : Node}
    {parts : List Component} {c : Component} {l : Ledger} (hv : v ∈ Variant.standard)
    (hparts : v.isParent ∨ parts = [])
    (h : (Setup.standard settings theme).Builds v n parts c l) :
    c.fragment.Settled l ∧
      (∀ m : Ledger, (∀ p ∈ parts, ∀ f ∈ p.fragments, f.Settled m) →
        ∀ f ∈ Json.fragmentsUnder c.json, f.Settled m) ∧
      (c.side = none → c.fragment.field? "role" ≠ some "aside") := by
  obtain ⟨hmakes, hside⟩ := h.makes htheme hv hparts
  refine ⟨settled_of_makes hmakes, ?_, ?_⟩
  · intro m hm
    refine settled_inside_of_makes hmakes ?_
    intro f hf
    obtain ⟨p, hp, hfp⟩ := Json.mem_fragmentsOf.mp hf
    obtain ⟨q, hq, rfl⟩ := List.mem_map.mp hp
    exact hm q hq f hfp
  · intro hnone
    refine role_ne_aside_of_makes hmakes ?_
    intro haside
    rw [hnone, if_pos haside] at hside
    cases hside

/-- What a walk over content leaves behind: settled fragments, none of an aside in the flow. -/
theorem settled_of_yields
    {settings : Settings} {theme : Theme} (htheme : theme.HasNoTemplates) {ns : List Node}
    {cs : List Component} {l : Ledger} (h : (Setup.standard settings theme).Yields ns cs l) :
    ∀ c ∈ cs, (∀ f ∈ c.fragments, f.Settled l) ∧
      (c.side = none → c.fragment.field? "role" ≠ some "aside") := by
  have hplain {v : Variant} {n : Node} {c : Component} {l : Ledger} (hv : v ∈ Variant.standard)
      (hbuilds : (Setup.standard settings theme).Builds v n [] c l) :
      ∀ d ∈ [c], (∀ f ∈ d.fragments, f.Settled l) ∧
        (d.side = none → d.fragment.field? "role" ≠ some "aside") := by
    obtain ⟨hown, hinside, hrole⟩ := settled_of_builds htheme hv (.inr rfl) hbuilds
    intro d hd
    obtain rfl := List.mem_singleton.mp hd
    refine ⟨?_, hrole⟩
    rw [Component.fragments_eq]
    exact List.forall_mem_cons.mpr ⟨hown, hinside l nofun⟩
  induction h with
  | nil => exact nofun
  | cons first rest ihfirst ihrest =>
      intro c hc
      rcases List.mem_append.mp hc with hc | hc
      · obtain ⟨hsettled, hrole⟩ := ihfirst c hc
        exact ⟨fun f hf => (hsettled f hf).merge_left _, hrole⟩
      · obtain ⟨hsettled, hrole⟩ := ihrest c hc
        exact ⟨fun f hf => (hsettled f hf).merge_right _, hrole⟩
  | blank => exact nofun
  | loose visible inText builds => exact hplain (by decide) builds
  | unsupported => exact nofun
  | inside isElement unmatched supported notInText children ih => exact ih
  | plain isElement matched isPlain builds =>
      exact hplain (Setup.of_match?_eq_some matched).1 builds
  | parent isElement matched isParent children builds ih =>
      have hv := (Setup.of_match?_eq_some matched).1
      obtain ⟨hown, hinside, hrole⟩ := settled_of_builds htheme hv (.inl isParent) builds
      intro d hd
      obtain rfl := List.mem_singleton.mp hd
      refine ⟨?_, hrole⟩
      rw [Component.fragments_eq]
      refine List.forall_mem_cons.mpr ⟨hown.merge_right _, ?_⟩
      intro f hf
      exact (hinside _ (fun p hp => (ih p hp).1) f hf).merge_left _

/-! ## Resolving anchors keeps the references closed -/

theorem refersTo_set
    {c : Component} {layouts textStyles styles : List Text}
    (h : ∀ f ∈ c.fragments, f.RefersTo layouts textStyles styles) {name : Text} (value : Json)
    (hname : name ∉ [componentsKey, "layout", "textStyle", "style"]) :
    ∀ f ∈ (c.set name value).fragments, f.RefersTo layouts textStyles styles := by
  simp only [List.mem_cons, List.not_mem_nil, or_false, not_or] at hname
  obtain ⟨hcomponents, hlayout, htextStyle, hstyle⟩ := hname
  have hother {property : Text} (hproperty : name ≠ property) {names : List Text}
      (hnames : c.fragment.NamesIn property names) :
      (c.set name value).fragment.NamesIn property names := by
    intro v hv
    rw [Component.field?_set, if_neg hproperty] at hv
    exact hnames v hv
  rw [Component.fragments_eq] at h
  rw [Component.fragments_set c hcomponents]
  obtain ⟨hown, hinside⟩ := List.forall_mem_cons.mp h
  exact List.forall_mem_cons.mpr
    ⟨⟨hother hlayout hown.layout, hother htextStyle hown.textStyle, hother hstyle hown.style⟩,
      hinside⟩

theorem refersTo_setLayout
    {c : Component} {name : Text} {layouts textStyles styles : List Text}
    (h : ∀ f ∈ c.fragments, f.RefersTo layouts textStyles styles) (hname : name ∈ layouts) :
    ∀ f ∈ (c.set "layout" (.str name)).fragments, f.RefersTo layouts textStyles styles := by
  have hfield (property : Text) :
      (c.set "layout" (.str name)).fragment.field? property =
        if Text.ofString "layout" = property then some (.str name)
        else c.fragment.field? property :=
    Component.field?_set c _ _ _
  rw [Component.fragments_eq] at h
  rw [Component.fragments_set c (by decide)]
  obtain ⟨hown, hinside⟩ := List.forall_mem_cons.mp h
  refine List.forall_mem_cons.mpr ⟨⟨.of_some (hfield _) hname, ?_, ?_⟩, hinside⟩
  · intro v hv
    rw [hfield, if_neg (by decide)] at hv
    exact hown.textStyle v hv
  · intro v hv
    rw [hfield, if_neg (by decide)] at hv
    exact hown.style v hv

/-- A field of a fragment was there before another one was set. -/
theorem exists_of_mem_fragments_set
    {c : Component} {name property : Text} {value v f : Json} (hname : name ≠ componentsKey)
    (hproperty : name ≠ property) (hf : f ∈ (c.set name value).fragments)
    (hv : f.field? property = some v) :
    ∃ g ∈ c.fragments, g.field? property = some v := by
  rw [Component.fragments_set c hname] at hf
  rw [Component.fragments_eq]
  rcases List.mem_cons.mp hf with rfl | hinside
  · rw [Component.field?_set, if_neg hproperty] at hv
    exact ⟨c.fragment, .head _, hv⟩
  · exact ⟨f, .tail _ hinside, hv⟩

/-- Whether a component in the flow is what an anchor leads to. -/
structure Component.IsTargetOf (t : Component) (anchor : Json) : Prop where
  inFlow : t.side = none
  identified : t.identifier.isTruthy = true
  named : anchor.field? "targetComponentIdentifier" = some t.identifier

namespace Anchoring

/-- Whether the components refer to nothing but the given names and each other. -/
structure Closed (a : Anchoring) (textStyles styles : List Text) : Prop where
  refers : ∀ c ∈ a.components, ∀ f ∈ c.fragments,
    f.RefersTo (Table.keys a.layouts) textStyles styles
  anchors : ∀ c ∈ a.components, ∀ f ∈ c.fragments, ∀ v, f.field? "anchor" = some v →
    ∃ t ∈ a.components, t.IsTargetOf v
  inFlow : ∀ c ∈ a.components, c.side = none →
    c.fragment.field? "anchor" = none ∧ c.fragment.field? "role" ≠ some "aside"

variable {theme : Theme} {a b : Anchoring} {textStyles styles : List Text}

/-- A component that nothing is attached to may be replaced by one that is closed, too. -/
theorem Closed.set
    (h : a.Closed textStyles styles) {i : Nat} {c d : Component} (hc : a.components[i]? = some c)
    (htarget : ∀ v, ¬c.IsTargetOf v)
    (hrefers : ∀ f ∈ d.fragments, f.RefersTo (Table.keys a.layouts) textStyles styles)
    (hanchors : ∀ f ∈ d.fragments, ∀ v, f.field? "anchor" = some v →
      ∃ t ∈ a.components, t.IsTargetOf v)
    (hinFlow : d.side = none →
      d.fragment.field? "anchor" = none ∧ d.fragment.field? "role" ≠ some "aside") :
    ({ a with components := a.components.set i d } : Anchoring).Closed textStyles styles := by
  have hkept {v : Json} (hv : ∃ t ∈ a.components, t.IsTargetOf v) :
      ∃ t ∈ a.components.set i d, t.IsTargetOf v := by
    obtain ⟨t, ht, htv⟩ := hv
    refine ⟨t, mem_set_of_ne hc ht ?_, htv⟩
    rintro rfl
    exact htarget v htv
  refine ⟨?_, ?_, ?_⟩
  · intro x hx f hf
    rcases List.mem_or_eq_of_mem_set hx with hold | rfl
    · exact h.refers x hold f hf
    · exact hrefers f hf
  · intro x hx f hf v hv
    rcases List.mem_or_eq_of_mem_set hx with hold | rfl
    · exact hkept (h.anchors x hold f hf v hv)
    · exact hkept (hanchors f hf v hv)
  · intro x hx
    rcases List.mem_or_eq_of_mem_set hx with hold | rfl
    · exact h.inFlow x hold
    · exact hinFlow

/-- A further layout does not hurt. -/
theorem Closed.withLayout (h : a.Closed textStyles styles) (name : Text) (layout : Json) :
    ({ a with layouts := Table.setIfAbsent name layout a.layouts } : Anchoring).Closed
      textStyles styles := by
  refine ⟨?_, h.anchors, h.inFlow⟩
  intro c hc f hf
  exact (h.refers c hc f hf).withLayout name layout

/-- A target that is given an identifier keeps the references closed, and others may refer to it. -/
theorem Closed.identify
    (h : a.Closed textStyles styles) {target : Nat} {t : Component}
    (ht : a.components[target]? = some t) (hside : t.side = none) :
    (a.identify target).Closed textStyles styles ∧
      ∃ u, (a.identify target).components[target]? = some u ∧ u.side = none ∧
        u.identifier.isTruthy = true := by
  have hmem : t ∈ a.components := List.mem_of_getElem? ht
  rw [Anchoring.identify, ht]
  dsimp only
  split
  · rename_i htruthy
    exact ⟨h, t, ht, hside, htruthy⟩
  · rename_i hfalsy
    let identifier : Json := .str (componentIdentifier (a.identifiers + 1))
    have hset := h.set (d := t.set "identifier" identifier) ht
      (fun v hv => hfalsy hv.identified) (refersTo_set (h.refers t hmem) identifier (by decide))
      (fun f hf v hv => by
        obtain ⟨g, hg, hgv⟩ := exists_of_mem_fragments_set (by decide) (by decide) hf hv
        exact h.anchors t hmem g hg v hgv)
      (fun _ => by
        rw [Component.field?_set, if_neg (by decide), Component.field?_set, if_neg (by decide)]
        exact h.inFlow t hmem hside)
    refine ⟨⟨hset.refers, hset.anchors, hset.inFlow⟩, t.set "identifier" identifier, ?_, hside, ?_⟩
    · exact List.getElem?_set_self (List.getElem?_eq_some_iff.mp ht).1
    · have hidentifier : (t.set "identifier" identifier).identifier = identifier := by
        rw [Component.identifier, Component.set, Table.get?_set, if_pos rfl]
        rfl
      rw [hidentifier]
      rfl

theorem getElem?_identify_of_ne {target i : Nat} (h : target ≠ i) :
    (a.identify target).components[i]? = a.components[i]? := by
  rw [Anchoring.identify]
  split
  · split
    · rfl
    · exact List.getElem?_set_ne h
  · rfl

/-- Attaching a component keeps the references closed. -/
theorem Closed.attach
    (h : a.Closed textStyles styles) {i : Nat} (hattach : Anchoring.attach theme a i = .ok b) :
    b.Closed textStyles styles := by
  rcases attach_cases hattach with rfl | ⟨c, side, target, hc, hside, htarget, hb⟩
  · exact h
  obtain ⟨t, ht, htside⟩ := anchorTarget?_eq_some htarget
  obtain ⟨hknown, u, hu, huside, hutruthy⟩ := h.identify ht htside
  -- The target is in the flow and the component beside it, so neither overwrites the other.
  have hne : target ≠ i := by
    rintro rfl
    rw [Option.some.inj (ht.symm.trans hc), hside] at htside
    cases htside
  have hc' : (a.identify target).components[i]? = some c := (getElem?_identify_of_ne hne).trans hc
  have hmem : c ∈ (a.identify target).components := List.mem_of_getElem? hc'
  have hnotTarget (v : Json) : ¬c.IsTargetOf v := by
    intro hv
    rw [hv.inFlow] at hside
    cases hside
  let attached := c.set "anchor" (anchor u.identifier)
  have hidentifier :
      ((a.identify target).components[target]?.map Component.identifier).getD .null =
        u.identifier := by
    rw [hu]
    rfl
  have hrefers : ∀ f ∈ attached.fragments,
      f.RefersTo (Table.keys (a.identify target).layouts) textStyles styles :=
    refersTo_set (hknown.refers c hmem) (anchor u.identifier) (by decide)
  have hleads : ∀ f ∈ attached.fragments, ∀ v, f.field? "anchor" = some v →
      ∃ t ∈ (a.identify target).components, t.IsTargetOf v := by
    intro f hf v hv
    rw [Component.fragments_set c (by decide)] at hf
    rcases List.mem_cons.mp hf with rfl | hinside
    · rw [Component.field?_set, if_pos rfl] at hv
      obtain rfl := Option.some.inj hv
      exact ⟨u, List.mem_of_getElem? hu, huside, hutruthy, rfl⟩
    · exact hknown.anchors c hmem f (by rw [Component.fragments_eq]; exact .tail _ hinside) v hv
  have hbeside {p : Prop} (hnone : c.side = none) : p := by
    rw [hside] at hnone
    cases hnone
  rcases hb with ⟨-, hb⟩ | ⟨-, layout, -, hb⟩
  · rw [hidentifier] at hb
    subst hb
    exact hknown.set (d := attached) hc' hnotTarget hrefers hleads fun hnone => hbeside hnone
  · rw [hidentifier] at hb
    subst hb
    have hlayout : side.layoutName ∈
        Table.keys (Table.setIfAbsent side.layoutName layout (a.identify target).layouts) :=
      Table.mem_keys_setIfAbsent.mpr (.inr rfl)
    refine (hknown.withLayout side.layoutName layout).set
      (d := attached.set "layout" (.str side.layoutName)) hc' hnotTarget
      (refersTo_setLayout (fun f hf => (hrefers f hf).withLayout _ layout) hlayout) ?_
      (fun hnone => hbeside hnone)
    intro f hf v hv
    obtain ⟨g, hg, hgv⟩ := exists_of_mem_fragments_set (by decide) (by decide) hf hv
    exact hleads g hg v hgv

end Anchoring

/-! ## Articles are closed -/

/-- The names of the entries that an article has under a key. -/
def namesUnder (article : Table Json) (key : Text) : List Text :=
  Table.keys ((Table.get? key article).getD .null).entriesOf

/-- Whether the fragments of an article refer to nothing but its entries and its components. -/
structure ClosedUnderReferences (article : Table Json) : Prop where
  refers : ∀ f ∈ allFragments article, f.RefersTo (namesUnder article "componentLayouts")
    (namesUnder article "componentTextStyles") (namesUnder article "componentStyles")
  anchors : ∀ f ∈ allFragments article, ∀ anchor, f.field? "anchor" = some anchor →
    ∃ t ∈ topFragments article, t.field? "anchor" = none ∧ t.field? "role" ≠ some "aside" ∧
      ∃ identifier, t.field? "identifier" = some identifier ∧
        anchor.field? "targetComponentIdentifier" = some identifier

theorem Component.field?_identifier_of_isTruthy {c : Component} (h : c.identifier.isTruthy = true) :
    c.fragment.field? "identifier" = some c.identifier := by
  rw [Component.identifier] at h ⊢
  cases hget : Table.get? "identifier" c.json with
  | none =>
      rw [hget] at h
      cases h
  | some v => exact hget

/-- Whatever the content, the settings and the values of the theme: an article that comes about
without templates of the host or the theme is closed under its own references. -/
theorem closedUnderReferences_of_assemble
    (settings : Settings) (themes : ThemeStore) (sections : List Key)
    (htheme : (themes.used sections).HasNoTemplates) (root : Node) (info : ArticleInfo)
    (r : ExportResult)
    (h : (⟨settings, themes, Variant.standard, .empty⟩ : Assembler).assemble root sections info =
      .ok r) :
    ClosedUnderReferences r.article := by
  obtain ⟨cs, a, hcs, ha, rfl⟩ := Setup.assemble_eq_ok h
  obtain ⟨before, l, after, hyields, hledger⟩ := Setup.yields_of_components htheme hcs
  have hsettled := settled_of_yields htheme hyields
  let ledger := ((Setup.standard settings (themes.used sections)).components root).ledger
  have hstart : Anchoring.Closed ⟨cs, ledger.layouts, 0⟩ (Table.keys ledger.textStyles)
      (Table.keys ledger.componentStyles) := by
    have hmore {c : Component} (hc : c ∈ cs) {f : Json} (hf : f ∈ c.fragments) :
        f.Settled ledger := by
      rw [show ledger = before.merge (l.merge after) from hledger]
      exact (((hsettled c hc).1 f hf).merge_left after).merge_right before
    refine ⟨fun c hc f hf => (hmore hc hf).refers, ?_, ?_⟩
    · intro c hc f hf v hv
      rw [(hmore hc hf).free] at hv
      cases hv
    · intro c hc hside
      exact ⟨(hmore hc (by rw [c.fragments_eq]; exact .head _)).free, (hsettled c hc).2 hside⟩
  have hclosed : a.Closed (Table.keys ledger.textStyles) (Table.keys ledger.componentStyles) :=
    Anchoring.foldlM_attach
      (motive := fun b => b.Closed (Table.keys ledger.textStyles) (Table.keys ledger.componentStyles))
      (fun hknown hattach => hknown.attach hattach) hstart ha
  have htop : topFragments ((Setup.standard settings (themes.used sections)).article info ledger
      a.components a.layouts) = a.components.map Component.fragment := rfl
  have hfragment {f : Json} (hf : f ∈ allFragments ((Setup.standard settings
      (themes.used sections)).article info ledger a.components a.layouts)) :
      ∃ c ∈ a.components, f ∈ c.fragments := by
    rw [allFragments, htop] at hf
    obtain ⟨v, hv, hfv⟩ := Json.mem_fragmentsOf.mp hf
    obtain ⟨c, hc, rfl⟩ := List.mem_map.mp hv
    exact ⟨c, hc, hfv⟩
  refine ⟨?_, ?_⟩
  · intro f hf
    obtain ⟨c, hc, hfc⟩ := hfragment hf
    exact hclosed.refers c hc f hfc
  · intro f hf anchor hanchor
    obtain ⟨c, hc, hfc⟩ := hfragment hf
    obtain ⟨t, ht, htarget⟩ := hclosed.anchors c hc f hfc anchor hanchor
    obtain ⟨hfree, hrole⟩ := hclosed.inFlow t ht htarget.inFlow
    refine ⟨t.fragment, ?_, hfree, hrole, t.identifier, ?_, htarget.named⟩
    · exact htop ▸ List.mem_map_of_mem ht
    · exact Component.field?_identifier_of_isTruthy htarget.identified

/-- An aside with a rule behind it, to which the aside is anchored. -/
theorem closedUnderReferences_of_anchored_aside :
    let assembler : Assembler :=
      ⟨{ Settings.default with asideClass := "box" }, .initial, Variant.standard, .empty⟩
    let root : Node := .root [.element "div" [("class", "box")] [.ofText "A"], .element "hr" [] []]
    ∃ r, assembler.assemble root [] .default = .ok r ∧ ClosedUnderReferences r.article := by
  intro assembler root
  obtain ⟨r, hr⟩ := exists_of_isOk
    (show (assembler.assemble root [] .default).isOk = true by decide +kernel)
  exact ⟨r, hr, closedUnderReferences_of_assemble _ .initial [] rfl root .default r hr⟩

end ArticleExport
