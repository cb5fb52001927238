import ArticleExport.Proofs.Article.Alignment
import ArticleExport.Proofs.Article.Assembly
import ArticleExport.Proofs.Article.Photos
import ArticleExport.Proofs.Article.References
import ArticleExport.Proofs.Component.Familiar
import ArticleExport.Proofs.Component.Matching

/-!
# Articles with bundled pictures and with remote ones

Whether pictures are bundled shows in the addresses of photos and in the list of bundles, and
nowhere else.  The walk with bundles and the walk without make counterparts of the same
nodes, and the bundles are the addresses of the photos that the walk without has made.
-/

namespace ArticleExport

/-- The address of a picture as a bundled file. -/
def bundledAddress (url : Text) : Text :=
  Component.bundleScheme ++ (Address.fileName url).toOption.getD []

/-- Settings under which pictures are bundled, or stay where they are. -/
def Settings.withRemoteImages (settings : Settings) (remote : Bool) : Settings :=
  { settings with useRemoteImages := remote }

/-- The photos of a component that is built, by their addresses. -/
def Component.photoUrls (c : Component) : List Text := c.fragment.photoUrls

/-- A component with bundled pictures and the same one with remote pictures. -/
structure Component.IsBundled (c d : Component) : Prop where
  variant : c.variant = d.variant
  side : c.side = d.side
  fragment : c.fragment = d.fragment.mapPhotos bundledAddress
  named : ∀ url ∈ d.photoUrls, (Address.fileName url).isOk = true

/-- What a walk with bundled pictures makes, and what the same walk with remote ones makes. -/
structure Bundles (cs : List Component) (l : Ledger) (ds : List Component) (m : Ledger) : Prop where
  components : List.Forall₂ Component.IsBundled cs ds
  entries : { l with bundles := [] } = m
  bundles : l.bundles = (ds.flatMap Component.photoUrls).foldl addBundle []

namespace Bundles

variable {cs cs' ds ds' : List Component} {l l' m m' : Ledger}

theorem append (h : Bundles cs l ds m) (h' : Bundles cs' l' ds' m') :
    Bundles (cs ++ cs') (l.merge l') (ds ++ ds') (m.merge m') where
  components := List.rel_append h.components h'.components
  entries := by
    rw [← h.entries, ← h'.entries]
    rfl
  bundles := by
    rw [List.flatMap_append, foldl_addBundle_append, ← h.bundles, ← h'.bundles]
    rfl

theorem of_nil (hl : l.bundles = []) : Bundles [] l [] l where
  components := .nil
  entries := by
    rw [← hl]
  bundles := hl

/-- A component without photos is the same with bundled pictures. -/
theorem of_isPhotoFree {c : Component} (hfree : c.fragment.IsPhotoFree) (hl : l.bundles = []) :
    Bundles [c] l [c] l where
  components := by
    refine .cons ⟨rfl, rfl, (hfree.kept _).symm, ?_⟩ .nil
    rw [Component.photoUrls, hfree.urls]
    nofun
  entries := by
    rw [← hl]
  bundles := by
    rw [hl, List.flatMap_cons, Component.photoUrls, hfree.urls]
    rfl

end Bundles

/-! ## Components other than photos and asides -/

theorem isPhoto_textFields {role : Text} (h : role[1]? ≠ some (.scalar 'h')) (text : Json)
    (more : Table Json) :
    isPhoto (textFields role text more) = false := by
  refine decide_eq_false ?_
  intro heq
  have hrole : role = "photo" := Json.str.inj (Option.some.inj heq)
  rw [hrole] at h
  exact h rfl

theorem isPhotoFree_numberedNotes (theme : Theme) (number : Nat) (items : List Node) :
    ∀ note ∈ numberedNotes theme number items, note.IsPhotoFree := by
  induction items generalizing number with
  | nil => nofun
  | cons item items ih =>
      refine List.forall_mem_cons.mpr ⟨?_, ih _⟩
      rw [note_eq]
      refine Json.IsPhotoFree.of_not_mem (isPhoto_textFields (by decide) _ _) ?_
      split
      · show componentsKey ∉ (["role", "text", "format"] : List Text)
        decide
      · show componentsKey ∉ (["role", "text", "format", "identifier"] : List Text)
        decide

/-- What is neither a photo nor an aside has no photos and is entered without bundles. -/
theorem isPhotoFree_of_makes
    {settings : Settings} {theme : Theme} {n : Node} {k : Kind} {parts : List Json}
    {json : Table Json} {l : Ledger} (h : k.Makes settings theme n parts json l)
    (himage : k ≠ .image) (haside : k ≠ .aside) :
    (Json.obj json).IsPhotoFree ∧ l.bundles = [] := by
  have htext {role : Text} (hrole : role[1]? ≠ some (.scalar 'h')) (text : Json)
      {more : Table Json} (hmore : componentsKey ∉ Table.keys more) :
      (Json.obj (textFields role text more)).IsPhotoFree := by
    refine Json.IsPhotoFree.of_not_mem (isPhoto_textFields hrole text more) ?_
    have hkeys : componentsKey ∉ (["role", "text", "format"] : List Text) := by decide
    have happend : Table.keys (textFields role text more) =
        (["role", "text", "format"] : List Text) ++ Table.keys more := rfl
    rw [happend, List.mem_append]
    exact not_or_intro hkeys hmore
  cases h with
  | body => exact ⟨htext (by decide) _ (by decide), rfl⟩
  | @heading level style isLevel isStyle =>
      have hrole : (("heading" : Text) ++ Text.ofNat level)[1]? = some (.scalar 'e') := rfl
      refine ⟨htext (by rw [hrole]; decide) _ ?_, rfl⟩
      show componentsKey ∉ (["textStyle", "layout"] : List Text)
      decide
  | divider =>
      refine ⟨.of_not_mem rfl ?_, rfl⟩
      show componentsKey ∉ (["role", "stroke", "layout"] : List Text)
      decide
  | remotePhoto => exact (himage rfl).elim
  | bundledPhoto => exact (himage rfl).elim
  | pullquote => exact ⟨htext (by decide) _ (by decide), rfl⟩
  | blockquote spec isBlock =>
      refine ⟨htext (by decide) _ ?_, rfl⟩
      show componentsKey ∉ (["textStyle", "style", "layout"] : List Text)
      decide
  | footnotes =>
      let before : Table Json := [("role", "container"), ("layout", "body-layout")]
      have hnotes := isPhotoFree_numberedNotes theme 1
        (n.elementChildren.filter fun n => n.tag == Text.ofString "li")
      have hfree : (Json.obj (before ++ (componentsKey, .arr (numberedNotes theme 1
          (n.elementChildren.filter fun n => n.tag == Text.ofString "li"))) :: [])).IsPhotoFree :=
        .container hnotes rfl (by decide) nofun
      exact ⟨hfree, rfl⟩
  | aside => exact (haside rfl).elim

/-! ## Components side by side -/

namespace Setup

/-- A walk that may do without the first one corresponds to it where what is built does. -/
theorem alike_of_builds
    {R : Component → Ledger → Component → Ledger → Prop} {s s' : Setup} {v : Variant} {n : Node}
    {cs ds : List Component}
    (h : ∀ {c l}, s.Builds v n cs c l → ∃ d m, s'.Builds v n ds d m ∧ R c l d m) :
    (s.enclose v n cs).toWork.Alike False R (s'.enclose v n ds).toWork := by
  rw [Work.Alike]
  cases hresult : (s.enclose v n cs).toWork.result with
  | error f => exact .failed id f _
  | ok c =>
      obtain ⟨d, m, hbuilds, hrelated⟩ := h (finish_of_toWork hresult)
      have hmade : s'.enclose v n ds = ⟨d, m, none⟩ := hbuilds
      rw [hmade]
      exact .ok hrelated

/-- A setup with the standard variants and built-in templates that bundles pictures. -/
def bundling (settings : Settings) (theme : Theme) : Setup :=
  standard (settings.withRemoteImages false) theme

/-- The same setup, but pictures stay where they are. -/
def linking (settings : Settings) (theme : Theme) : Setup :=
  standard (settings.withRemoteImages true) theme

variable {settings : Settings} {theme : Theme} {n : Node} {c : Component} {l : Ledger}

/-- Only recipes of photos depend on where pictures are. -/
theorem recipe_bundling {v : Variant} (h : v.kind ≠ .image) (parts : List Component)
    (fragments : List Json) :
    (start theme v n parts).recipe (settings.withRemoteImages false) theme fragments =
      (start theme v n parts).recipe (settings.withRemoteImages true) theme fragments := by
  obtain ⟨label, kind, side, needsLayout⟩ := v
  cases kind with
  | image => exact (h rfl).elim
  | _ => rfl

/-- What is neither a photo nor an aside is built alike, and has no photos. -/
theorem Builds.bundles_of_plain
    {v : Variant} (h : (bundling settings theme).Builds v n [] c l) (htheme : theme.HasNoTemplates)
    (hv : v ∈ Variant.standard) (himage : v.kind ≠ .image) (haside : v.kind ≠ .aside) :
    ∃ d m, (linking settings theme).Builds v n [] d m ∧ Bundles [c] l [d] m := by
  have hrecipe : (start theme v n []).recipe (settings.withRemoteImages false) theme [] =
      (start theme v n []).recipe (settings.withRemoteImages true) theme [] :=
    recipe_bundling himage [] []
  obtain ⟨d, m, hd⟩ : ∃ d m, (linking settings theme).Builds v n [] d m :=
    exists_builds htheme fun f => hrecipe ▸ h.stop_not_mem rfl f
  have hsame : c = d ∧ l = m := by
    obtain ⟨hc, hl⟩ := h.eq_outcomes_recipe htheme
    obtain ⟨hd, hm⟩ := hd.eq_outcomes_recipe htheme
    rw [hc, hd, hl, hm, List.map_nil, hrecipe]
    exact ⟨rfl, rfl⟩
  obtain ⟨rfl, rfl⟩ := hsame
  obtain ⟨hmakes, -⟩ := h.makes htheme hv (.inr rfl)
  obtain ⟨hfree, hnone⟩ := isPhotoFree_of_makes hmakes himage haside
  exact ⟨c, l, hd, .of_isPhotoFree hfree hnone⟩

theorem mapPhotos_photoFields (φ : Text → Text) (n : Node) (address layout : Text) :
    (Json.obj (photoFields n address layout)).mapPhotos φ =
      .obj (photoFields n (φ address) layout) := by
  have hphoto : isPhoto (photoFields n address layout) = true := by
    rw [isPhoto, get?_photoFields (by decide)]
    rfl
  have hrole : ("role" : Text) ≠ componentsKey ∧ ("role" : Text) ≠ urlKey := by decide
  have hcaption : ("caption" : Text) ≠ componentsKey ∧ ("caption" : Text) ≠ urlKey := by decide
  have hlayout : ("layout" : Text) ≠ componentsKey ∧ ("layout" : Text) ≠ urlKey := by decide
  rw [Json.mapPhotos, hphoto, photoFields, photoFields, Json.mapPhotosIn_cons hrole.1 hrole.2]
  split
  · rw [Json.mapPhotosIn, Json.mapPhotosIn_cons hlayout.1 hlayout.2]
    rfl
  · rw [Json.mapPhotosIn, Json.mapPhotosIn_cons hcaption.1 hcaption.2,
      Json.mapPhotosIn_cons hlayout.1 hlayout.2]
    rfl

theorem photoUrls_photoFields (n : Node) (address layout : Text) :
    (Json.obj (photoFields n address layout)).photoUrls = [address] := by
  have hurl : (Json.obj (photoFields n address layout)).photoUrl? = some address := by
    rw [Json.photoUrl?, isPhoto, get?_photoFields (by decide), get?_photoFields (by decide)]
    rfl
  have hnone : Table.get? componentsKey (photoFields n address layout) = none :=
    get?_photoFields (by decide) n address layout
  rw [Json.photoUrls, Json.fragments_obj, Json.fragmentsUnder_of_get?_eq_none hnone,
    List.filterMap_cons_some hurl]
  rfl

/-- A photo is built with its own address where it is built with that of a bundled file. -/
theorem Builds.bundles_of_photo
    (h : (bundling settings theme).Builds .image n [] c l) (htheme : theme.HasNoTemplates) :
    ∃ d m, (linking settings theme).Builds .image n [] d m ∧ Bundles [c] l [d] m := by
  obtain ⟨hmakes, hside⟩ := makes_image htheme h
  generalize hjson : c.json = json at hmakes
  cases hmakes with
  | remotePhoto _ isRemote => cases isRemote
  | @bundledPhoto picture name isPicture isBundled isName =>
      -- The picture was found, and this is all that can keep a remote photo from being built.
      have hrecipe : (start theme .image n []).recipe (settings.withRemoteImages true) theme [] =
          photoSteps settings n ((picture.get? "src").getD []) := by
        change Component.imageSteps _ n = _
        rw [Component.imageSteps, ← pictureOf, isPicture]
        rfl
      have hstop (f : Failure) : Step.stop f ∉
          (start theme .image n []).recipe (settings.withRemoteImages true) theme [] := by
        rw [hrecipe]
        intro hmem
        cases List.all_eq_true.mp (isKnown_photoSteps settings theme n _) _ hmem
      obtain ⟨d, m, hd⟩ : ∃ d m, (linking settings theme).Builds .image n [] d m :=
        exists_builds htheme hstop
      obtain ⟨hmakes', hside'⟩ := makes_image htheme hd
      generalize hjson' : d.json = json' at hmakes'
      cases hmakes' with
      | bundledPhoto _ isBundled' => cases isBundled'
      | @remotePhoto picture' isPicture' _ =>
          obtain rfl := Option.some.inj (isPicture.symm.trans isPicture')
          have hname : bundledAddress ((picture.get? "src").getD []) =
              Component.bundleScheme ++ name := by
            rw [bundledAddress, isName]
            rfl
          have hurls : d.photoUrls = [(picture.get? "src").getD []] := by
            rw [Component.photoUrls, Component.fragment, hjson', photoUrls_photoFields]
          refine ⟨d, _, hd, .cons ⟨?_, ?_, ?_, ?_⟩ .nil, rfl, ?_⟩
          · rw [h.variant_eq htheme, hd.variant_eq htheme]
          · rw [hside, hside']
          · rw [Component.fragment, Component.fragment, hjson, hjson', mapPhotos_photoFields, hname]
            rfl
          · rw [hurls]
            exact List.forall_mem_singleton.mpr (by rw [isName]; rfl)
          · rw [List.flatMap_cons, List.flatMap_nil, hurls]
            rfl

theorem fragments_eq_map {cs ds : List Component} (h : List.Forall₂ Component.IsBundled cs ds) :
    cs.map Component.fragment = (ds.map Component.fragment).map (Json.mapPhotos bundledAddress) := by
  rw [List.map_map]
  exact map_eq_map_of_forall₂ (fun hbundled => hbundled.fragment) h

theorem isOk_fileName {cs ds : List Component} (h : List.Forall₂ Component.IsBundled cs ds) :
    ∀ url ∈ ds.flatMap Component.photoUrls, (Address.fileName url).isOk = true := by
  induction h with
  | nil => nofun
  | cons hbundled _ ih =>
      rw [List.flatMap_cons]
      exact List.forall_mem_append.mpr ⟨hbundled.named, ih⟩

/-- An aside is built around photos with their own addresses where it is built around bundled
ones, and it adds no bundles to theirs. -/
theorem Builds.bundles_of_aside
    {cs ds : List Component} {k m : Ledger}
    (h : (bundling settings theme).Builds .aside n cs c k) (htheme : theme.HasNoTemplates)
    (hparts : Bundles cs l ds m) :
    ∃ d o, (linking settings theme).Builds .aside n ds d o ∧
      Bundles [c] (l.merge k) [d] (m.merge o) := by
  -- Only the first step holds the parts, and what is entered does not depend on it.
  have hrecipe (parts : List Component) (remote : Bool) :
      (start theme .aside n parts).recipe (settings.withRemoteImages remote) theme
          (parts.map Component.fragment) =
        .json "json" [("components", .arr (parts.map Component.fragment))] ::
          (Component.asideSteps theme []).tail := rfl
  have hstop (f : Failure) : Step.stop f ∉ (start theme .aside n ds).recipe
      (settings.withRemoteImages true) theme (ds.map Component.fragment) := by
    have hnone := h.stop_not_mem (hrecipe cs false) f
    rw [hrecipe]
    rw [List.mem_cons, not_or] at hnone ⊢
    exact ⟨nofun, hnone.2⟩
  obtain ⟨d, o, hd⟩ : ∃ d o, (linking settings theme).Builds .aside n ds d o :=
    exists_builds htheme hstop
  have hentered : k = o := by
    obtain ⟨-, hk⟩ := h.eq_outcomes_recipe htheme
    obtain ⟨-, ho⟩ := hd.eq_outcomes_recipe htheme
    rw [hk, ho, hrecipe, hrecipe, Step.outcomes, Step.outcomes]
    refine congrArg (Ledger.merge _) (Step.outcomes_ledger_congr ?_ _)
    rfl
  subst hentered
  obtain ⟨hmakes, hside⟩ := makes_aside htheme h
  obtain ⟨hmakes', hside'⟩ := makes_aside htheme hd
  let before : Table Json :=
    [("role", "aside"), ("layout", .str (asideLayoutName theme))]
  let after : Table Json := [("style", "default-aside")]
  have hfields {e : Component} {parts : List Json} {entered : Ledger} {s : Settings}
      (hmade : Kind.Makes s theme n .aside parts e.json entered) :
      e.json = before ++ (componentsKey, .arr parts) :: after ∧ entered.bundles = [] := by
    generalize e.json = json at hmade
    cases hmade
    exact ⟨rfl, rfl⟩
  obtain ⟨hc, hbundles⟩ := hfields hmakes
  obtain ⟨hd', -⟩ := hfields hmakes'
  have hbefore : componentsKey ∉ Table.keys before :=
    show componentsKey ∉ (["role", "layout"] : List Text) by decide
  have hurls : d.photoUrls = ds.flatMap Component.photoUrls := by
    rw [Component.photoUrls, Component.fragment, hd', Json.photoUrls_container rfl hbefore]
    exact List.flatMap_map _ _ _
  refine ⟨d, k, hd, .cons ⟨?_, ?_, ?_, ?_⟩ .nil, ?_, ?_⟩
  · rw [h.variant_eq htheme, hd.variant_eq htheme]
  · rw [hside, hside']
  · rw [Component.fragment, Component.fragment, hc, hd',
      Json.mapPhotos_container rfl hbefore (by decide), fragments_eq_map hparts.components]
  · rw [hurls]
    exact isOk_fileName hparts.components
  · rw [← hparts.entries]
    simp only [Ledger.merge, hbundles, List.foldl_nil]
  · rw [List.flatMap_cons, List.flatMap_nil, List.append_nil, hurls, ← hparts.bundles]
    change k.bundles.foldl addBundle l.bundles = l.bundles
    rw [hbundles]
    rfl

/-- A walk that bundles pictures and one that does not make the same but for the photos. -/
theorem parallel_bundling (settings : Settings) (htheme : theme.HasNoTemplates) :
    (bundling settings theme).Parallel False Bundles (linking settings theme) where
  matched := by
    have hmatch (k : Kind) (m : Node) :
        k.match? (settings.withRemoteImages false) m = k.match? (settings.withRemoteImages true) m := by
      cases k <;> rfl
    intro n
    have hoffer : (fun v : Variant =>
        (v.kind.match? (settings.withRemoteImages false) n).map fun m => (v, m)) =
        fun v => (v.kind.match? (settings.withRemoteImages true) n).map fun m => (v, m) :=
      funext fun v => by rw [hmatch]
    exact congrArg (fun offer => Variant.standard.findSome? offer) hoffer
  keepsLooseText := rfl
  factory := rfl
  nothing := .of_nil rfl
  issue := fun _ => .of_nil rfl
  append := Bundles.append
  plain := by
    intro v n hv hplain
    have hstandard : v ∈ Variant.standard := hv.elim id fun hbody => hbody ▸ by decide
    have haside : v.kind ≠ .aside := fun hkind => hplain (beq_iff_eq.mpr hkind)
    refine alike_of_builds ?_
    intro c l hbuilds
    by_cases himage : v.kind = .image
    · obtain rfl : v = .image := Variant.eq_of_kind_eq hstandard (by decide) himage
      exact hbuilds.bundles_of_photo htheme
    · exact hbuilds.bundles_of_plain htheme hstandard himage haside
  parent := by
    intro v n cs l ds m hv hparent hparts
    obtain rfl : v = .aside := Variant.eq_of_kind_eq hv (by decide) (beq_iff_eq.mp hparent)
    exact alike_of_builds fun hbuilds => hbuilds.bundles_of_aside htheme hparts

end Setup

/-! ## Anchors -/

/-- What resolving anchors sets is nothing by which photos are known. -/
theorem photo_untouched :
    ∀ name ∈ Anchoring.touchedNames, name ∉ [componentsKey, urlKey, "role"] := by
  decide

theorem anchoredAlike_isBundled : AnchoredAlike Component.IsBundled where
  side := fun h => h.side
  needsLayout := fun h => by rw [h.variant]
  identifier := by
    intro c d h
    have hjson := Json.obj.inj h.fragment
    rw [Component.identifier, Component.identifier, hjson,
      Json.get?_mapPhotosIn (by decide) (by decide)]
  set := by
    intro c d name value hname h
    have hother := photo_untouched name hname
    refine ⟨h.variant, h.side, ?_, ?_⟩
    · have hjson := Json.obj.inj h.fragment
      rw [Component.fragment, Component.fragment, Component.set, Component.set,
        Json.mapPhotos_set hother, hjson]
    · have hurls : (d.set name value).photoUrls = d.photoUrls := Json.photoUrls_set hother value d.json
      rw [hurls]
      exact h.named

theorem photoUrls_resolveAnchors {theme : Theme} {cs : List Component} {layouts : Table Json}
    {a : Anchoring} (h : resolveAnchors theme cs layouts = .ok a) :
    a.components.flatMap Component.photoUrls = cs.flatMap Component.photoUrls := by
  have hsame : a.components.map Component.photoUrls = cs.map Component.photoUrls := by
    refine Anchoring.map_resolveAnchors ?_ h
    intro c value name hname
    exact Json.photoUrls_set (photo_untouched name hname) value c.json
  rw [List.flatMap_def, List.flatMap_def, hsame]

/-! ## Articles -/

/-- What an export with bundled pictures is to the same export with remote ones. -/
structure ExportResult.IsBundlingOf (bundled remote : ExportResult) : Prop where
  article : Json.obj bundled.article = (Json.obj remote.article).mapPhotos bundledAddress
  named : ∀ url ∈ photoUrls remote.article, (Address.fileName url).isOk = true
  issues : bundled.issues = remote.issues
  noBundles : remote.bundles = []
  bundles : bundled.bundles =
    ((photoUrls remote.article).filter fun url => !url.isEmpty).eraseDups

namespace Setup

variable {settings : Settings} {theme : Theme}

theorem photoUrls_article (s : Setup) (info : ArticleInfo) (l : Ledger) (cs : List Component)
    (layouts : Table Json) :
    photoUrls (s.article info l cs layouts) = cs.flatMap Component.photoUrls := by
  have htop : topFragments (s.article info l cs layouts) = cs.map Component.fragment := rfl
  rw [photoUrls, allFragments, htop, Json.filterMap_fragmentsOf]
  exact List.flatMap_map _ _ _

theorem mapPhotos_article {cs ds : List Component} (h : List.Forall₂ Component.IsBundled cs ds)
    (s : Setup) (info : ArticleInfo) (l : Ledger) (layouts : Table Json) :
    (Json.obj (s.article info l ds layouts)).mapPhotos bundledAddress =
      .obj (s.article info l cs layouts) := by
  let before : Table Json :=
    [("version", .str formatVersion), ("identifier", info.identifier), ("title", info.title),
      ("language", info.language), ("layout", articleLayout s.theme)]
  let after : Table Json :=
    [("componentTextStyles", .obj l.textStyles), ("componentLayouts", .obj layouts),
      ("componentStyles", .obj l.componentStyles), ("metadata", .obj info.metadata)]
  have harticle (es : List Component) : s.article info l es layouts =
      before ++ (componentsKey, .arr (es.map Component.fragment)) :: after := rfl
  have hbefore : componentsKey ∉ Table.keys before :=
    show componentsKey ∉ (["version", "identifier", "title", "language", "layout"] : List Text)
      by decide
  have hafter : componentsKey ∉ Table.keys after :=
    show componentsKey ∉ (["componentTextStyles", "componentLayouts", "componentStyles",
      "metadata"] : List Text) by decide
  rw [harticle, harticle, Json.mapPhotos_container rfl hbefore hafter, fragments_eq_map h]

theorem tagStyles_bundles (s : Setup) : s.tagStyles.ledger.bundles = [] := by
  obtain ⟨styles, hstyles⟩ := s.tagStyles_ledger
  exact congrArg Ledger.bundles hstyles

/-- Of the settings, the styles of tags depend on one alone. -/
theorem tagStyles_congr
    {s s' : Setup} (hsettings : s.settings.htmlSupport = s'.settings.htmlSupport)
    (htheme : s.theme = s'.theme) (hspecs : s.specs = s'.specs) :
    s.tagStyles = s'.tagStyles := by
  rw [tagStyles, tagStyles, hsettings, htheme, hspecs]

theorem bundles_components (htheme : theme.HasNoTemplates) (root : Node) :
    ((bundling settings theme).components root).Alike False Bundles
      ((linking settings theme).components root) := by
  have hsame : (bundling settings theme).tagStyles = (linking settings theme).tagStyles :=
    tagStyles_congr rfl rfl rfl
  have hstyles : (bundling settings theme).tagStyles.Alike False
      (fun _ l _ m => l = m ∧ l.bundles = []) (linking settings theme).tagStyles := by
    rw [hsame]
    exact .of_eq (fun _ => ⟨rfl, tagStyles_bundles _⟩) rfl
  have hwalk := (parallel_bundling settings htheme).alike_walkAll root.children
  rw [bundling, linking] at hstyles hwalk ⊢
  rw [components_eq _ htheme, components_eq _ htheme]
  refine hstyles.andThen ?_
  rintro _ l _ _ ⟨rfl, hl⟩
  refine hwalk.mono ?_
  intro cs k ds o hbundles
  exact (Bundles.of_nil hl).append hbundles

theorem exists_linking_of_bundling
    (htheme : theme.HasNoTemplates) {root : Node} {info : ArticleInfo} {bundled : ExportResult}
    (h : (bundling settings theme).assemble root info = .ok bundled) :
    ∃ remote, (linking settings theme).assemble root info = .ok remote ∧
      bundled.IsBundlingOf remote := by
  obtain ⟨cs, a, hcs, ha, rfl⟩ := assemble_eq_ok h
  obtain ⟨ds, hds, hbundles⟩ := (bundles_components htheme root).exists_of_eq_ok hcs
  let l := ((bundling settings theme).components root).ledger
  let m := ((linking settings theme).components root).ledger
  have hentries : { l with bundles := [] } = m := hbundles.entries
  have hlayout (side : Side) : anchorLayout theme side = anchorLayout theme side := rfl
  obtain ⟨b, hb, hanchored⟩ := (Anchoring.aligned_resolveAnchors anchoredAlike_isBundled hlayout
    hbundles.components l.layouts).exists_of_eq_ok ha
  have hb' : resolveAnchors theme ds m.layouts = .ok b := by
    rw [← hentries]
    exact hb
  have hurls : photoUrls ((linking settings theme).article info m b.components b.layouts) =
      ds.flatMap Component.photoUrls := by
    rw [photoUrls_article, photoUrls_resolveAnchors hb']
  refine ⟨_, assemble_of_ok hds hb' info, ?_, ?_, ?_, ?_, ?_⟩
  · have harticle := mapPhotos_article hanchored.components (linking settings theme) info m b.layouts
    rw [harticle, ← hanchored.layouts, ← hentries]
    rfl
  · dsimp only
    rw [hurls]
    exact isOk_fileName hbundles.components
  · show l.issues = m.issues
    rw [← hentries]
  · show m.bundles = []
    rw [← hentries]
  · dsimp only
    rw [hurls, ← foldl_addBundle_eq_eraseDups]
    exact hbundles.bundles

end Setup

/-- Where content can be exported with bundled pictures, it can be exported with remote ones, and
the two exports have the same issues and the same article but for the addresses of the photos.  Only
bundled pictures are bundles: each address that there is, in the order of its first use. -/
theorem Assembler.assemble_bundling
    (settings : Settings) (themes : ThemeStore) (sections : List Key)
    (htheme : (themes.used sections).HasNoTemplates) (root : Node) (info : ArticleInfo)
    (bundled : ExportResult)
    (h : (⟨{ settings with useRemoteImages := false }, themes, Variant.standard, .empty⟩ :
      Assembler).assemble root sections info = .ok bundled) :
    ∃ remote, (⟨{ settings with useRemoteImages := true }, themes, Variant.standard, .empty⟩ :
        Assembler).assemble root sections info = .ok remote ∧
      bundled.IsBundlingOf remote :=
  Setup.exists_linking_of_bundling htheme h

/-- A figure, an image without an address, and images in an aside, one of which is shown again. -/
theorem Assembler.assemble_bundling_of_repeated_photos :
    let settings := { Settings.default with asideClass := "box" }
    let photo (url : Text) : Node := .element "img" [("src", url)] []
    let root : Node := .root [.element "figure" [] [photo "https://cdn.org/x/a.png?v=1"],
      .element "figure" [] [photo ""],
      .element "div" [("class", "box")] [.element "p" [] [photo "b.jpg"],
        photo "https://cdn.org/x/a.png?v=1"],
      photo "b.jpg"]
    ∃ bundled remote,
      (⟨{ settings with useRemoteImages := false }, .initial, Variant.standard, .empty⟩ :
        Assembler).assemble root [] .default = .ok bundled ∧
      (⟨{ settings with useRemoteImages := true }, .initial, Variant.standard, .empty⟩ :
        Assembler).assemble root [] .default = .ok remote ∧
      bundled.IsBundlingOf remote ∧ bundled.bundles = ["https://cdn.org/x/a.png?v=1", "b.jpg"] := by
  intro settings photo root
  have hholds : ((⟨{ settings with useRemoteImages := false }, .initial, Variant.standard, .empty⟩ :
      Assembler).assemble root [] .default).toOption.any (fun r =>
        r.bundles == (["https://cdn.org/x/a.png?v=1", "b.jpg"] : List Text)) = true := by
    decide +kernel
  obtain ⟨bundled, hbundled, hbundles⟩ := exists_of_holds hholds
  obtain ⟨remote, hremote, hsame⟩ :=
    assemble_bundling settings .initial [] rfl root .default bundled hbundled
  exact ⟨bundled, remote, hbundled, hremote, hsame, beq_iff_eq.mp hbundles⟩

end ArticleExport
