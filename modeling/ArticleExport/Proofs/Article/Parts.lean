import ArticleExport.Proofs.Article.Bundling

/-!
# What every fragment has

A fragment of an article, at whatever depth, gives each of its names once, a photo has an
address, and what stands inside of a fragment are fragments.  Components are built so, notes are,
and resolving anchors keeps it.
-/

namespace ArticleExport

/-- Whether a value is an object whose names are texts. -/
def Json.IsObject (v : Json) : Prop := ∃ fields, v = .obj fields

/-- Whether the fields of a fragment have different names, among them an address if the fragment is
a photo, and whether nothing but fragments stands in the fragment. -/
structure IsPart (fields : Table Json) : Prop where
  distinct : Table.Distinct fields
  addressed : isPhoto fields = true → ∃ url : Text, Table.get? urlKey fields = some (.str url)
  inside : ∀ items, Table.get? componentsKey fields = some (.arr items) → ∀ v ∈ items, v.IsObject

/-- Whether the fragments among some values have what every fragment has. -/
def AreParts (fragments : List Json) : Prop := ∀ fields, Json.obj fields ∈ fragments → IsPart fields

theorem IsPart.of_not_photo {fields : Table Json} (hkeys : Table.Distinct fields)
    (hrole : isPhoto fields = false) (hcomponents : Table.get? componentsKey fields = none) :
    IsPart fields where
  distinct := hkeys
  addressed hphoto := by
    rw [hrole] at hphoto
    cases hphoto
  inside items hitems := by
    rw [hcomponents] at hitems
    cases hitems

/-- A fragment that is no photo may hold others. -/
theorem IsPart.of_holder {fields : Table Json} (hkeys : Table.Distinct fields)
    (hrole : isPhoto fields = false) {items : List Json}
    (hcomponents : Table.get? componentsKey fields = some (.arr items))
    (hitems : ∀ v ∈ items, v.IsObject) :
    IsPart fields where
  distinct := hkeys
  addressed hphoto := by
    rw [hrole] at hphoto
    cases hphoto
  inside held hheld := by
    obtain rfl := Json.arr.inj (Option.some.inj (hcomponents.symm.trans hheld))
    exact hitems

/-- A field may be set that is neither the role nor the address and does not hold fragments. -/
theorem isPart_set_iff {name : Text} (hrole : name ≠ "role") (hurl : name ≠ urlKey)
    (hcomponents : name ≠ componentsKey) (value : Json) (fields : Table Json) :
    IsPart (Table.set name value fields) ↔ IsPart fields := by
  have hdistinct : Table.Distinct (Table.set name value fields) ↔ Table.Distinct fields := by
    refine ⟨fun h => ?_, fun h => h.set name value⟩
    rw [Table.Distinct, Table.keys_set] at h
    split at h
    · exact h
    · exact (List.nodup_append.mp h).1
  have haddressed : (isPhoto (Table.set name value fields) = true →
      ∃ url : Text, Table.get? urlKey (Table.set name value fields) = some (.str url)) ↔
        (isPhoto fields = true → ∃ url : Text, Table.get? urlKey fields = some (.str url)) := by
    rw [Json.isPhoto_set hrole, Table.get?_set, if_neg hurl]
  have hinside : Table.get? componentsKey (Table.set name value fields) =
      Table.get? componentsKey fields := by
    rw [Table.get?_set, if_neg hcomponents]
  constructor
  · intro h
    exact ⟨hdistinct.mp h.distinct, haddressed.mp h.addressed, hinside ▸ h.inside⟩
  · intro h
    exact ⟨hdistinct.mpr h.distinct, haddressed.mpr h.addressed, hinside.symm ▸ h.inside⟩

/-! ## Components -/

theorem isObject_numberedNotes (theme : Theme) (number : Nat) (items : List Node) :
    ∀ v ∈ numberedNotes theme number items, v.IsObject := by
  induction items generalizing number with
  | nil => exact List.forall_mem_nil _
  | cons item items ih =>
      rw [numberedNotes, List.forall_mem_cons, note_eq]
      exact ⟨⟨_, rfl⟩, ih _⟩

theorem isPart_of_makes
    {settings : Settings} {theme : Theme} {n : Node} {k : Kind} {parts : List Json}
    {json : Table Json} {l : Ledger} (h : k.Makes settings theme n parts json l)
    (hparts : ∀ v ∈ parts, v.IsObject) :
    IsPart json := by
  have hphoto (address layout : Text) : IsPart (photoFields n address layout) := by
    refine ⟨?_, fun _ => ⟨address, get?_photoFields (by decide) n address layout⟩, ?_⟩
    · rw [photoFields]
      split
      · show List.Nodup (["role", "URL", "layout"] : List Text)
        decide
      · show List.Nodup (["role", "URL", "caption", "layout"] : List Text)
        decide
    · intro items hitems
      rw [get?_photoFields (by decide)] at hitems
      cases hitems
  have hkeys {fields : Table Json} (names : List Text) (heq : Table.keys fields = names)
      (hnames : names.Nodup) : Table.Distinct fields := by
    rw [Table.Distinct, heq]
    exact hnames
  cases h with
  | body =>
      exact .of_not_photo (hkeys ["role", "text", "format", "textStyle", "layout"] rfl (by decide))
        rfl rfl
  | @heading level style isLevel isStyle =>
      refine .of_not_photo (hkeys ["role", "text", "format", "textStyle", "layout"] rfl (by decide))
        (isPhoto_textFields ?_ _ _) rfl
      have hsecond : (("heading" : Text) ++ Text.ofNat level)[1]? = some (.scalar 'e') := rfl
      rw [hsecond]
      decide
  | divider => exact .of_not_photo (hkeys ["role", "stroke", "layout"] rfl (by decide)) rfl rfl
  | remotePhoto => exact hphoto _ _
  | bundledPhoto => exact hphoto _ _
  | pullquote =>
      exact .of_not_photo (hkeys ["role", "text", "format", "textStyle", "layout"] rfl (by decide))
        rfl rfl
  | blockquote =>
      exact .of_not_photo
        (hkeys ["role", "text", "format", "textStyle", "style", "layout"] rfl (by decide)) rfl rfl
  | footnotes =>
      exact .of_holder (hkeys ["role", "layout", "components"] rfl (by decide)) rfl rfl
        (isObject_numberedNotes _ _ _)
  | aside =>
      exact .of_holder (hkeys ["role", "layout", "components", "style"] rfl (by decide)) rfl rfl
        hparts

theorem areParts_numberedNotes (theme : Theme) (number : Nat) (items : List Node) :
    AreParts (Json.fragmentsOf (numberedNotes theme number items)) := by
  induction items generalizing number with
  | nil => exact fun _ hfields => (List.not_mem_nil hfields).elim
  | cons item items ih =>
      intro fields hfields
      rw [numberedNotes, Json.fragmentsOf, List.mem_append] at hfields
      rcases hfields with hnote | hrest
      · rw [note_eq, textFields] at hnote
        split at hnote
        · rw [Json.fragments_obj, Json.fragmentsUnder_of_get?_eq_none rfl] at hnote
          obtain rfl := Json.obj.inj (List.mem_singleton.mp hnote)
          exact .of_not_photo (show List.Nodup (["role", "text", "format"] : List Text) by decide) rfl
            rfl
        · rw [Json.fragments_obj, Json.fragmentsUnder_of_get?_eq_none rfl] at hnote
          obtain rfl := Json.obj.inj (List.mem_singleton.mp hnote)
          exact .of_not_photo
            (show List.Nodup (["role", "text", "format", "identifier"] : List Text) by decide) rfl rfl
      · exact ih _ fields hrest

/-- The fragments inside what is built are those of the components inside it, and footnotes. -/
theorem areParts_inside_of_makes
    {settings : Settings} {theme : Theme} {n : Node} {k : Kind} {parts : List Json}
    {json : Table Json} {l : Ledger} (h : k.Makes settings theme n parts json l)
    (hparts : AreParts (Json.fragmentsOf parts)) :
    AreParts (Json.fragmentsUnder json) := by
  have hnone {entries : Table Json} (hentries : Table.get? componentsKey entries = none) :
      AreParts (Json.fragmentsUnder entries) := by
    rw [Json.fragmentsUnder_of_get?_eq_none hentries]
    exact fun _ hfields => (List.not_mem_nil hfields).elim
  have hphoto (address layout : Text) :
      Table.get? componentsKey (photoFields n address layout) = none :=
    get?_photoFields (by decide) n address layout
  cases h with
  | body => exact hnone rfl
  | heading => exact hnone rfl
  | divider => exact hnone rfl
  | remotePhoto => exact hnone (hphoto _ _)
  | bundledPhoto => exact hnone (hphoto _ _)
  | pullquote => exact hnone rfl
  | blockquote => exact hnone rfl
  | footnotes => exact areParts_numberedNotes _ _ _
  | aside => exact hparts

namespace Setup

variable {settings : Settings} {theme : Theme}

theorem Builds.areParts
    {v : Variant} {n : Node} {parts : List Component} {c : Component} {l : Ledger}
    (h : (standard settings theme).Builds v n parts c l) (htheme : theme.HasNoTemplates)
    (hv : v ∈ Variant.standard) (hparts : v.isParent ∨ parts = [])
    (hinside : ∀ p ∈ parts, AreParts p.fragments) :
    AreParts c.fragments := by
  obtain ⟨hmakes, -⟩ := h.makes htheme hv hparts
  have hobjects : ∀ v ∈ parts.map Component.fragment, v.IsObject :=
    List.forall_mem_map.mpr fun p _ => ⟨p.json, rfl⟩
  have hfragments : AreParts (Json.fragmentsOf (parts.map Component.fragment)) := by
    intro fields hfields
    obtain ⟨p, hp, hfp⟩ := Json.mem_fragmentsOf.mp hfields
    obtain ⟨q, hq, rfl⟩ := List.mem_map.mp hp
    exact hinside q hq fields hfp
  intro fields hfields
  rw [Component.fragments_eq] at hfields
  rcases List.mem_cons.mp hfields with hown | hunder
  · obtain rfl := Json.obj.inj hown
    exact isPart_of_makes hmakes hobjects
  · exact areParts_inside_of_makes hmakes hfragments fields hunder

theorem areParts_of_yields (htheme : theme.HasNoTemplates) {ns : List Node} {cs : List Component}
    {l : Ledger} (h : (standard settings theme).Yields ns cs l) :
    ∀ c ∈ cs, AreParts c.fragments := by
  induction h with
  | nil => exact List.forall_mem_nil _
  | cons first rest ih ih' => exact List.forall_mem_append.mpr ⟨ih, ih'⟩
  | blank isText dropped => exact List.forall_mem_nil _
  | loose visible inText builds =>
      exact List.forall_mem_singleton.mpr
        (builds.areParts htheme (by decide) (.inr rfl) (List.forall_mem_nil _))
  | unsupported isElement unmatched tag => exact List.forall_mem_nil _
  | inside isElement unmatched supported notInText children ih => exact ih
  | plain isElement matched isPlain builds =>
      exact List.forall_mem_singleton.mpr
        (builds.areParts htheme (of_match?_eq_some matched).1 (.inr rfl) (List.forall_mem_nil _))
  | parent isElement matched isParent children builds ih =>
      exact List.forall_mem_singleton.mpr
        (builds.areParts htheme (of_match?_eq_some matched).1 (.inl isParent) ih)

end Setup

/-! ## Articles -/

theorem Component.areParts_set_iff (c : Component) {name : Text} (value : Json)
    (hname : name ∉ [componentsKey, urlKey, "role"]) :
    AreParts (c.set name value).fragments ↔ AreParts c.fragments := by
  simp only [List.mem_cons, List.not_mem_nil, or_false, not_or] at hname
  obtain ⟨hcomponents, hurl, hrole⟩ := hname
  have hsplit (d : Component) (rest : List Json) :
      AreParts (d.fragment :: rest) ↔ IsPart d.json ∧ AreParts rest := by
    constructor
    · exact fun h => ⟨h d.json (.head _), fun fields hfields => h fields (.tail _ hfields)⟩
    · rintro ⟨hown, hrest⟩ fields hfields
      rcases List.mem_cons.mp hfields with heq | hmem
      · exact Json.obj.inj heq ▸ hown
      · exact hrest fields hmem
  rw [fragments_set c hcomponents, fragments_eq, hsplit, hsplit, Component.set,
    isPart_set_iff hrole hurl hcomponents]

/-- Every fragment of an article that comes about gives its names once, and every photo has an
address. -/
theorem Setup.areParts_of_assemble
    {settings : Settings} {theme : Theme} (htheme : theme.HasNoTemplates) {root : Node}
    {info : ArticleInfo} {r : ExportResult}
    (h : (standard settings theme).assemble root info = .ok r) :
    AreParts (allFragments r.article) := by
  obtain ⟨cs, a, hcs, ha, rfl⟩ := assemble_eq_ok h
  obtain ⟨before, l, after, hyields, -⟩ := yields_of_components htheme hcs
  have hsame : a.components.map (fun c => AreParts c.fragments) =
      cs.map fun c => AreParts c.fragments :=
    Anchoring.map_resolveAnchors
      (fun c value name hname => propext (c.areParts_set_iff value (photo_untouched name hname))) ha
  have hall (ds : List Component) :
      (∀ c ∈ ds, AreParts c.fragments) ↔ ∀ p ∈ ds.map (fun c => AreParts c.fragments), p :=
    (List.forall_mem_map (P := id)).symm
  have hanchored : ∀ c ∈ a.components, AreParts c.fragments := by
    rw [hall, hsame, ← hall]
    exact areParts_of_yields htheme hyields
  intro fields hfields
  obtain ⟨p, hp, hfp⟩ := Json.mem_fragmentsOf.mp hfields
  obtain ⟨c, hc, rfl⟩ := List.mem_map.mp hp
  exact hanchored c hc fields hfp

/-- An article gives its names once, and it is not a photo itself. -/
theorem Setup.isPart_of_assemble
    {s : Setup} {root : Node} {info : ArticleInfo} {r : ExportResult}
    (h : s.assemble root info = .ok r) :
    IsPart r.article ∧ isPhoto r.article = false := by
  obtain ⟨cs, a, -, -, rfl⟩ := assemble_eq_ok h
  have hnames : List.Nodup (["version", "identifier", "title", "language", "layout", "components",
      "componentTextStyles", "componentLayouts", "componentStyles", "metadata"] : List Text) := by
    decide
  have hobjects : ∀ v ∈ a.components.map Component.fragment, v.IsObject :=
    List.forall_mem_map.mpr fun c _ => ⟨c.json, rfl⟩
  exact ⟨.of_holder hnames rfl rfl hobjects, rfl⟩

/-! ## Photos by their addresses -/

/-- Whether a fragment is a photo. -/
def Json.isPhotoFragment : Json → Bool
  | .obj fields => isPhoto fields
  | _ => false

/-- The photos of an article at every depth, in depth-first order. -/
def photosOf (article : Table Json) : List Json :=
  (allFragments article).filter Json.isPhotoFragment

/-- Photos that have addresses have the addresses that there are. -/
theorem map_urlKey_filter_isPhotoFragment {fragments : List Json} (h : AreParts fragments) :
    (fragments.filter Json.isPhotoFragment).map (fun f => f.field? urlKey) =
      (fragments.filterMap Json.photoUrl?).map fun url => some (.str url) := by
  induction fragments with
  | nil => rfl
  | cons f fragments ih =>
      have hrest := ih fun fields hfields => h fields (.tail _ hfields)
      cases f with
      | obj fields =>
          cases hrole : isPhoto fields with
          | false =>
              have hnone : (Json.obj fields).photoUrl? = none := by
                rw [Json.photoUrl?, hrole]
              rw [List.filter_cons_of_neg (by rw [Json.isPhotoFragment, hrole]; exact Bool.false_ne_true),
                List.filterMap_cons_none hnone, hrest]
          | true =>
              obtain ⟨url, hurl⟩ := (h fields (.head _)).addressed hrole
              have hsome : (Json.obj fields).photoUrl? = some url := by
                rw [Json.photoUrl?, hrole, hurl]
              rw [List.filter_cons_of_pos (by rw [Json.isPhotoFragment, hrole]),
                List.filterMap_cons_some hsome, List.map_cons, List.map_cons, hrest]
              exact congrArg (· :: _) hurl
      | _ => exact hrest

theorem map_urlKey_photosOf {article : Table Json} (h : AreParts (allFragments article)) :
    (photosOf article).map (fun f => f.field? urlKey) =
      (photoUrls article).map fun url => some (.str url) :=
  map_urlKey_filter_isPhotoFragment h

end ArticleExport
