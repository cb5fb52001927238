import ArticleExport.Proofs.Article.Existence
import ArticleExport.Proofs.Article.Parts
import ArticleExport.Proofs.Walk.Reach

/-!
# Which pictures of the content an article shows

Where no node keeps pictures from being reached, each image outside of figures becomes a photo,
and so does the first image of each figure.  A figure is one photo with one caption, whatever it
holds, so an article shows all images of its content just if no figure holds more than one.
-/

namespace ArticleExport

/-! ## The images of a tree -/

namespace Node

/-- The images among nodes and inside of them, in document order. -/
def picturesOf (ns : List Node) : List Node :=
  (nodesOf ns).filter fun n => n.tag == Text.ofString "img"

mutual

/-- The images by which a node is shown: an image by itself, a figure by the first image in it, and
any other node by those of its children. -/
def leadPictures : Node → List Node
  | ⟨tag, attributes, children, text, claimed⟩ =>
    if tag = "img" then [⟨tag, attributes, children, text, claimed⟩]
    else if tag = "figure" then (picturesOf children).head?.toList
    else leadPicturesOf children

/-- The images by which nodes are shown, in document order. -/
def leadPicturesOf : List Node → List Node
  | [] => []
  | n :: ns => leadPictures n ++ leadPicturesOf ns

end

variable {n x : Node} {ns : List Node}

theorem picturesOf_cons (n : Node) (ns : List Node) :
    picturesOf (n :: ns) =
      (if n.tag = "img" then [n] else []) ++ (picturesOf n.children ++ picturesOf ns) := by
  have hown : ([n].filter fun n => n.tag == Text.ofString "img") =
      if n.tag = "img" then [n] else [] := by
    split
    · rename_i htag
      exact List.filter_cons_of_pos (beq_iff_eq.mpr htag)
    · rename_i htag
      exact List.filter_cons_of_neg fun heq => htag (beq_iff_eq.mp heq)
  rw [picturesOf, nodesOf_cons, ← List.singleton_append, List.filter_append, List.filter_append,
    hown]
  rfl

theorem picturesOf_append_singleton (n : Node) (ns : List Node) :
    picturesOf (n :: ns) = picturesOf [n] ++ picturesOf ns := by
  rw [picturesOf_cons n ns, picturesOf_cons n [], List.append_assoc]
  simp [picturesOf, nodesOf]

theorem leadPictures_eq (n : Node) :
    leadPictures n =
      if n.tag = "img" then [n]
      else if n.tag = "figure" then (picturesOf n.children).head?.toList
      else leadPicturesOf n.children := by
  cases n
  rw [leadPictures]

theorem leadPicturesOf_singleton (n : Node) : leadPicturesOf [n] = leadPictures n := by
  rw [leadPicturesOf, leadPicturesOf, List.append_nil]

/-- What nodes are shown by is among their images, in the same order. -/
theorem leadPicturesOf_sublist :
    ∀ ns : List Node, (leadPicturesOf ns).Sublist (picturesOf ns)
  | [] => .slnil
  | ⟨tag, attributes, children, text, claimed⟩ :: ns => by
      let n : Node := ⟨tag, attributes, children, text, claimed⟩
      have hchildren : (leadPicturesOf n.children).Sublist (picturesOf n.children) :=
        leadPicturesOf_sublist children
      have hown : (leadPictures n).Sublist
          ((if n.tag = "img" then [n] else []) ++ picturesOf n.children) := by
        rw [leadPictures_eq]
        split
        · exact List.sublist_append_left _ _
        · split
          · cases picturesOf n.children with
            | nil => exact .slnil
            | cons picture pictures => exact (List.nil_sublist _).cons_cons _
          · exact hchildren
      rw [leadPicturesOf, picturesOf_cons, ← List.append_assoc]
      exact hown.append (leadPicturesOf_sublist ns)

/-- The images inside of a node of a tree are images of the tree. -/
theorem picturesOf_children_sublist (h : x ∈ nodesOf ns) :
    (picturesOf x.children).Sublist (picturesOf ns) :=
  (nodesOf_children_sublist h).filter _

theorem length_picturesOf_children_le (h : x ∈ nodesOf ns) :
    (picturesOf x.children).length ≤ (picturesOf ns).length :=
  (picturesOf_children_sublist h).length_le

theorem head?_toList_eq_iff {α : Type} (as : List α) : as.head?.toList = as ↔ as.length ≤ 1 := by
  match as with
  | [] => simp
  | [a] => simp
  | a :: b :: cs => simp

/-- Nodes whose images hold no images are shown by all of them just if no figure holds more than
one. -/
theorem leadPicturesOf_eq_iff :
    ∀ {ns : List Node}, (∀ x ∈ nodesOf ns, x.tag = "img" → picturesOf x.children = []) →
      (leadPicturesOf ns = picturesOf ns ↔
        ∀ x ∈ nodesOf ns, x.tag = "figure" → (picturesOf x.children).length ≤ 1)
  | [], _ => by simp [leadPicturesOf, picturesOf, nodesOf]
  | ⟨tag, attributes, children, text, claimed⟩ :: ns, hleaf => by
      let n : Node := ⟨tag, attributes, children, text, claimed⟩
      rw [nodesOf_cons] at hleaf
      obtain ⟨hown, hinside⟩ := List.forall_mem_cons.mp hleaf
      obtain ⟨hchildren, hrest⟩ := List.forall_mem_append.mp hinside
      have hfigures : leadPicturesOf [n] = picturesOf [n] ↔
          (n.tag = "figure" → (picturesOf n.children).length ≤ 1) ∧
            ∀ x ∈ nodesOf n.children, x.tag = "figure" → (picturesOf x.children).length ≤ 1 := by
        have hfew (h : (picturesOf n.children).length ≤ 1) :
            ∀ x ∈ nodesOf n.children, x.tag = "figure" → (picturesOf x.children).length ≤ 1 :=
          fun x hx _ => (length_picturesOf_children_le hx).trans h
        have hnone : picturesOf [] = [] := rfl
        rw [leadPicturesOf_singleton, leadPictures_eq, picturesOf_cons, hnone, List.append_nil]
        by_cases himage : n.tag = "img"
        · have hempty : picturesOf n.children = [] := hown himage
          rw [if_pos himage, if_pos himage, hempty]
          refine iff_of_true (List.append_nil _).symm ⟨fun _ => Nat.zero_le 1, hfew ?_⟩
          rw [hempty]
          exact Nat.zero_le 1
        · rw [if_neg himage, if_neg himage, List.nil_append]
          by_cases hfigure : n.tag = "figure"
          · rw [if_pos hfigure, head?_toList_eq_iff]
            exact ⟨fun h => ⟨fun _ => h, hfew h⟩, fun h => h.1 hfigure⟩
          · rw [if_neg hfigure]
            exact (leadPicturesOf_eq_iff hchildren).trans
              ⟨fun h => ⟨fun heq => absurd heq hfigure, h⟩, fun h => h.2⟩
      have hsplit : leadPicturesOf (n :: ns) = leadPicturesOf [n] ++ leadPicturesOf ns := by
        rw [leadPicturesOf_singleton, leadPicturesOf]
      change leadPicturesOf (n :: ns) = picturesOf (n :: ns) ↔ _
      rw [hsplit, picturesOf_append_singleton,
        append_eq_append_iff_of_sublist (leadPicturesOf_sublist _) (leadPicturesOf_sublist _),
        hfigures, leadPicturesOf_eq_iff hrest, nodesOf_cons, List.forall_mem_cons,
        List.forall_mem_append, and_assoc]

end Node

/-! ## Nodes that let pictures through -/

namespace Setup

variable {settings : Settings} {theme : Theme} {n : Node}

/-- Whether a node keeps no picture from being shown: an image has an address, neither an image
nor a node with images inside is set aside, and a node with images inside is a figure, or the walk
makes nothing of it and looks at its children. -/
structure LetsThrough (s : Setup) (n : Node) : Prop where
  sourced : n.tag = "img" → Kind.hasValue n "src" = true
  unmarked : n.tag = "img" ∨ n.descendants "img" ≠ [] → ¬n.hasClass s.settings.asideClass
  passed : n.descendants "img" ≠ [] → n.tag = "figure" ∨ s.opens n = true

instance (s : Setup) (n : Node) : Decidable (s.LetsThrough n) :=
  decidable_of_iff
    ((n.tag = "img" → Kind.hasValue n "src" = true) ∧
      (n.tag = "img" ∨ (n.descendants "img").isEmpty = false → ¬n.hasClass s.settings.asideClass) ∧
      ((n.descendants "img").isEmpty = false → n.tag = "figure" ∨ s.opens n = true))
    (by
      rw [List.isEmpty_eq_false_iff]
      exact ⟨fun ⟨hsourced, hunmarked, hpassed⟩ => ⟨hsourced, hunmarked, hpassed⟩,
        fun h => ⟨h.sourced, h.unmarked, h.passed⟩⟩)

/-- An image with an address and a figure with an image become photos, unless they are set aside. -/
theorem match?_of_picture (hunmarked : ¬n.hasClass settings.asideClass)
    (h : n.tag = "img" ∧ Kind.hasValue n "src" = true ∨
      n.tag = "figure" ∧ n.descendants "img" ≠ []) :
    (standard settings theme).match? n = some (.image, n) := by
  have haside : Kind.aside.match? settings n = none := by
    rw [Kind.match?, Bool.eq_false_iff.mpr hunmarked, Bool.and_false]
    rfl
  have hfootnotes : Kind.footnotes.match? settings n = none := by
    have hother : n.tag ≠ "ol" := by
      rcases h with ⟨htag, -⟩ | ⟨htag, -⟩
      · rw [htag]
        decide
      · rw [htag]
        decide
    rw [Kind.match?, if_neg fun hboth => hother hboth.1]
  have himage : Kind.image.match? settings n = some n := by
    rcases h with ⟨htag, hsource⟩ | ⟨htag, hinside⟩
    · rw [Kind.match?, if_pos htag, if_pos hsource]
    · have hother : n.tag ≠ "img" := by
        rw [htag]
        decide
      have hsome : (!(n.descendants "img").isEmpty) = true := by
        rw [List.isEmpty_eq_false_iff.mpr hinside]
        rfl
      rw [Kind.match?, if_neg hother, if_pos ⟨htag, hsome⟩]
  have hkinds : Variant.aside.kind = .aside ∧ Variant.footnotes.kind = .footnotes ∧
      Variant.image.kind = .image := ⟨rfl, rfl, rfl⟩
  change Variant.standard.findSome? (fun v => (v.kind.match? settings n).map fun m => (v, m)) = _
  simp only [Variant.standard, List.findSome?_cons, hkinds, haside, hfootnotes, himage,
    Option.map_none, Option.map_some]

/-- Where a node lets pictures through, it has none, or it becomes a photo of the first one, or it
is opened. -/
theorem LetsThrough.cases (h : (standard settings theme).LetsThrough n) :
    Node.picturesOf [n] = [] ∨
      (¬n.isText ∧ (standard settings theme).match? n = some (.image, n) ∧
        Node.leadPictures n = (pictureOf n).toList) ∨
      ((standard settings theme).opens n = true ∧
        Node.leadPictures n = Node.leadPicturesOf n.children) := by
  have hhasTag {tag : Text} (htag : n.tag = tag) (hother : tag ≠ Node.textTag) : ¬n.isText := by
    rw [Node.isText, htag]
    exact fun heq => hother (beq_iff_eq.mp heq)
  by_cases himage : n.tag = "img"
  · right
    left
    refine ⟨hhasTag himage (by decide), ?_, ?_⟩
    · exact match?_of_picture (h.unmarked (.inl himage)) (.inl ⟨himage, h.sourced himage⟩)
    · rw [Node.leadPictures_eq, if_pos himage, pictureOf, if_pos himage]
      rfl
  by_cases hinside : n.descendants "img" = []
  · left
    rw [Node.picturesOf_cons, if_neg himage]
    exact congrArg (· ++ Node.picturesOf []) hinside
  right
  by_cases hfigure : n.tag = "figure"
  · left
    refine ⟨hhasTag hfigure (by decide), ?_, ?_⟩
    · exact match?_of_picture (h.unmarked (.inr hinside)) (.inr ⟨hfigure, hinside⟩)
    · rw [Node.leadPictures_eq, if_neg himage, if_pos hfigure, pictureOf, if_neg himage]
      rfl
  · right
    refine ⟨(h.passed hinside).resolve_left hfigure, ?_⟩
    rw [Node.leadPictures_eq, if_neg himage, if_neg hfigure]

/-- Nodes without images are shown by none. -/
theorem leadPicturesOf_eq_nil {ns : List Node} (h : Node.picturesOf ns = []) :
    Node.leadPicturesOf ns = [] := by
  have hsublist := Node.leadPicturesOf_sublist ns
  rw [h] at hsublist
  exact List.sublist_nil.mp hsublist

theorem picturesOf_singleton_eq_nil (h : Node.picturesOf [n] = []) :
    n.tag ≠ "img" ∧ Node.picturesOf n.children = [] := by
  rw [Node.picturesOf_cons, List.append_eq_nil_iff, List.append_eq_nil_iff] at h
  refine ⟨fun himage => ?_, h.2.1⟩
  rw [if_pos himage] at h
  cases h.1

/-- A node of which a photo is made is an image or has one inside. -/
theorem picturesOf_ne_nil_of_match? {m : Node} (h : Kind.image.match? settings n = some m) :
    Node.picturesOf [n] ≠ [] := by
  intro hnone
  obtain ⟨himage, hinside⟩ := picturesOf_singleton_eq_nil hnone
  have hdescendants : n.descendants "img" = [] := hinside
  simp only [Kind.match?, if_neg himage, hdescendants, List.isEmpty_nil, Bool.not_true,
    Bool.false_eq_true, and_false, if_false] at h
  split at h
  · obtain ⟨hsingle, -⟩ := Option.filter_eq_some_iff.mp h
    obtain ⟨htag, hmem⟩ := Kind.mem_of_singleImage? hsingle
    exact List.filter_eq_nil_iff.mp hinside m hmem (beq_iff_eq.mpr htag)
  · cases h

/-! ## The walk -/

theorem photoUrls_of_photo {m : Node} {c : Component} {l : Ledger} (htheme : theme.HasNoTemplates)
    (hremote : settings.useRemoteImages = true)
    (h : (standard settings theme).Builds .image m [] c l) :
    c.photoUrls = (pictureOf m).toList.map Node.source := by
  obtain ⟨hmakes, -⟩ := makes_image htheme h
  rw [Component.photoUrls, Component.fragment]
  generalize c.json = json at hmakes
  cases hmakes with
  | remotePhoto isPicture isRemote =>
      rw [photoUrls_photoFields, isPicture]
      rfl
  | bundledPhoto isPicture isBundled isName =>
      rw [hremote] at isBundled
      cases isBundled

theorem photoUrls_of_aside {m : Node} {cs : List Component} {c : Component} {l : Ledger}
    (htheme : theme.HasNoTemplates) (h : (standard settings theme).Builds .aside m cs c l) :
    c.photoUrls = cs.flatMap Component.photoUrls := by
  obtain ⟨hmakes, -⟩ := makes_aside htheme h
  rw [Component.photoUrls, Component.fragment]
  generalize c.json = json at hmakes
  generalize hparts : cs.map Component.fragment = parts at hmakes
  cases hmakes with
  | aside =>
      let before : Table Json := [("role", "aside"), ("layout", .str (asideLayoutName theme))]
      let after : Table Json := [("style", "default-aside")]
      have hbefore : componentsKey ∉ Table.keys before :=
        show componentsKey ∉ (["role", "layout"] : List Text) by decide
      have hurls : (Json.obj (before ++ (componentsKey, .arr parts) :: after)).photoUrls =
          parts.flatMap Json.photoUrls :=
        Json.photoUrls_container rfl hbefore
      rw [← hparts, List.flatMap_map] at hurls
      exact hparts ▸ hurls

/-- The photos that a walk yields are those by which the nodes are shown. -/
theorem photoUrls_of_yields
    (htheme : theme.HasNoTemplates) (hremote : settings.useRemoteImages = true) {ns : List Node}
    {cs : List Component} {l : Ledger} (h : (standard settings theme).Yields ns cs l)
    (hthrough : ∀ n ∈ Node.nodesOf ns, (standard settings theme).LetsThrough n) :
    cs.flatMap Component.photoUrls = (Node.leadPicturesOf ns).map Node.source := by
  have hsplit {n : Node} {ns : List Node}
      (hall : ∀ m ∈ Node.nodesOf (n :: ns), (standard settings theme).LetsThrough m) :
      (standard settings theme).LetsThrough n ∧
        (∀ m ∈ Node.nodesOf n.children, (standard settings theme).LetsThrough m) ∧
          ∀ m ∈ Node.nodesOf ns, (standard settings theme).LetsThrough m := by
    rw [Node.nodesOf_cons] at hall
    obtain ⟨hown, hmore⟩ := List.forall_mem_cons.mp hall
    exact ⟨hown, List.forall_mem_append.mp hmore⟩
  have hbody {n : Node} {c : Component} {l : Ledger}
      (hbuilds : (standard settings theme).Builds .body n [] c l) : c.photoUrls = [] := by
    obtain ⟨hmakes, -⟩ := hbuilds.makes htheme (by decide) (.inr rfl)
    exact (isPhotoFree_of_makes hmakes nofun nofun).1.urls
  induction h with
  | nil => rfl
  | @cons n ns cs ds l m first rest ihfirst ihrest =>
      obtain ⟨hown, hinside, hrest⟩ := hsplit hthrough
      have hfirst : ∀ m ∈ Node.nodesOf [n], (standard settings theme).LetsThrough m := by
        rw [Node.nodesOf_cons]
        exact List.forall_mem_cons.mpr
          ⟨hown, List.forall_mem_append.mpr ⟨hinside, List.forall_mem_nil _⟩⟩
      rw [List.flatMap_append, ihfirst hfirst, ihrest hrest, Node.leadPicturesOf_singleton,
        Node.leadPicturesOf, List.map_append]
  | @blank n isText dropped =>
      rcases (hsplit hthrough).1.cases with hnone | ⟨helement, -⟩ | ⟨hopens, -⟩
      · rw [leadPicturesOf_eq_nil hnone]
        rfl
      · exact (helement isText).elim
      · exact ((opens_iff.mp hopens).1 isText).elim
  | @loose n c l visible inText builds =>
      rw [List.flatMap_singleton, hbody builds]
      rcases (hsplit hthrough).1.cases with hnone | ⟨helement, hmatch, -⟩ | ⟨hopens, -⟩
      · rw [leadPicturesOf_eq_nil hnone]
        rfl
      · rcases inText with htext | ⟨hunmatched, -⟩
        · exact (helement htext).elim
        · rw [hmatch] at hunmatched
          cases hunmatched
      · obtain ⟨helement, -, -, hinText⟩ := opens_iff.mp hopens
        exact (inText.elim helement fun hinline => hinText ⟨⟨hinline.2, visible⟩, rfl⟩).elim
  | @unsupported n isElement unmatched tag =>
      rcases (hsplit hthrough).1.cases with hnone | ⟨-, hmatch, -⟩ | ⟨hopens, -⟩
      · rw [leadPicturesOf_eq_nil hnone]
        rfl
      · rw [hmatch] at unmatched
        cases unmatched
      · exact ((opens_iff.mp hopens).2.2.1 tag).elim
  | @inside n cs l isElement unmatched supported notInText children ih =>
      rw [ih (hsplit hthrough).2.1]
      rcases (hsplit hthrough).1.cases with hnone | ⟨-, hmatch, -⟩ | ⟨-, hlead⟩
      · rw [leadPicturesOf_eq_nil hnone,
          leadPicturesOf_eq_nil (picturesOf_singleton_eq_nil hnone).2]
      · rw [hmatch] at unmatched
        cases unmatched
      · rw [Node.leadPicturesOf_singleton, hlead]
  | @plain n m v c l isElement matched isPlain builds =>
      rw [List.flatMap_singleton]
      obtain ⟨hv, htaken⟩ := of_match?_eq_some matched
      rcases (hsplit hthrough).1.cases with hnone | ⟨-, hmatch, hlead⟩ | ⟨hopens, -⟩
      · obtain ⟨hmakes, -⟩ := builds.makes htheme hv (.inr rfl)
        have himage : v.kind ≠ .image := fun hkind =>
          picturesOf_ne_nil_of_match? (hkind ▸ htaken) hnone
        have haside : v.kind ≠ .aside := fun hkind => isPlain (beq_iff_eq.mpr hkind)
        rw [leadPicturesOf_eq_nil hnone]
        exact (isPhotoFree_of_makes hmakes himage haside).1.urls
      · obtain ⟨rfl, rfl⟩ := Prod.mk.inj (Option.some.inj (matched.symm.trans hmatch))
        rw [photoUrls_of_photo htheme hremote builds, Node.leadPicturesOf_singleton, hlead]
      · rw [opens_eq_false_of_isSome (by rw [matched]; rfl)] at hopens
        cases hopens
  | @parent n m v cs c l k isElement matched isParent children builds ih =>
      have hv := (of_match?_eq_some matched).1
      obtain rfl : v = .aside :=
        Variant.eq_of_kind_eq hv (by decide) (beq_iff_eq.mp isParent)
      rw [List.flatMap_singleton, photoUrls_of_aside htheme builds, ih (hsplit hthrough).2.1]
      rcases (hsplit hthrough).1.cases with hnone | ⟨-, hmatch, -⟩ | ⟨hopens, -⟩
      · rw [leadPicturesOf_eq_nil hnone,
          leadPicturesOf_eq_nil (picturesOf_singleton_eq_nil hnone).2]
      · obtain ⟨himage, -⟩ := Prod.mk.inj (Option.some.inj (matched.symm.trans hmatch))
        cases himage
      · rw [opens_eq_false_of_isSome (by rw [matched]; rfl)] at hopens
        cases hopens

end Setup

/-! ## Articles -/

/-- Where every node lets pictures through, an article comes about.  Its photos are the images by
which the content is shown, each with its own address, and they are all images of the content just
if no figure holds more than one. -/
theorem Assembler.assemble_shows_pictures
    (settings : Settings) (themes : ThemeStore) (sections : List Key)
    (htheme : (themes.used sections).HasNoTemplates) (root : Node) (info : ArticleInfo)
    (hthrough : ∀ n ∈ Node.nodesOf root.children,
      ((⟨{ settings with useRemoteImages := true }, themes, Variant.standard, .empty⟩ :
        Assembler).setup sections).LetsThrough n) :
    ∃ r, (⟨{ settings with useRemoteImages := true }, themes, Variant.standard, .empty⟩ :
        Assembler).assemble root sections info = .ok r ∧
      (photosOf r.article).map (fun f => f.field? urlKey) =
        (Node.leadPicturesOf root.children).map (fun n => some (.str n.source)) ∧
      ((photosOf r.article).map (fun f => f.field? urlKey) =
          (root.descendants "img").map (fun n => some (.str n.source)) ↔
        ∀ n ∈ Node.nodesOf root.children, n.tag = "figure" → (n.descendants "img").length ≤ 1) := by
  let remote : Settings := { settings with useRemoteImages := true }
  let theme := themes.used sections
  obtain ⟨r, hr⟩ : ∃ r, (Setup.standard remote theme).assemble root info = .ok r :=
    Setup.exists_assemble htheme rfl root info
  have hurls : photoUrls r.article = (Node.leadPicturesOf root.children).map Node.source := by
    obtain ⟨cs, a, hcs, ha, rfl⟩ := Setup.assemble_eq_ok hr
    obtain ⟨before, l, after, hyields, -⟩ := Setup.yields_of_components htheme hcs
    rw [Setup.photoUrls_article, photoUrls_resolveAnchors ha]
    exact Setup.photoUrls_of_yields htheme rfl hyields hthrough
  have hphotos : (photosOf r.article).map (fun f => f.field? urlKey) =
      (Node.leadPicturesOf root.children).map (fun n => some (.str n.source)) := by
    rw [map_urlKey_photosOf (Setup.areParts_of_assemble htheme hr), hurls, List.map_map]
    rfl
  refine ⟨r, hr, hphotos, ?_⟩
  -- An image that holds images would have to be opened, but it is taken as a photo.
  have hleaf : ∀ x ∈ Node.nodesOf root.children, x.tag = "img" → Node.picturesOf x.children = [] := by
    intro x hx himage
    by_contra hinside
    have hlets : (Setup.standard remote theme).LetsThrough x := hthrough x hx
    have hmatch : (Setup.standard remote theme).match? x = some (.image, x) :=
      Setup.match?_of_picture (hlets.unmarked (.inl himage)) (.inl ⟨himage, hlets.sourced himage⟩)
    rcases hlets.passed hinside with hfigure | hopens
    · rw [himage] at hfigure
      exact absurd hfigure (by decide)
    · rw [Setup.opens_eq_false_of_isSome (by rw [hmatch]; rfl)] at hopens
      cases hopens
  refine Iff.trans ⟨?_, ?_⟩ (Node.leadPicturesOf_eq_iff hleaf)
  · intro hall
    have hlength := congrArg List.length (hphotos.symm.trans hall)
    rw [List.length_map, List.length_map] at hlength
    exact (Node.leadPicturesOf_sublist root.children).eq_of_length hlength
  · intro hall
    rw [hphotos, hall]
    rfl

/-- Images in a section and in figures of one image each, one of them inside of another figure. -/
theorem Assembler.assemble_shows_pictures_of_nested_figures :
    let assembler : Assembler := ⟨{ { Settings.default with asideClass := "box" } with
      useRemoteImages := true }, .initial, Variant.standard, .empty⟩
    let photo (url : Text) : Node := .element "img" [("src", url)] []
    let root : Node := .root [photo "a.png", .element "section" [] [.element "div" [] [photo "b.png"],
      .element "figure" [] [.element "figure" [] [photo "c.png"]]], .element "p" [] [.ofText "Text"]]
    ∃ r, assembler.assemble root [] .default = .ok r ∧
      (photosOf r.article).map (fun f => f.field? urlKey) =
        (["a.png", "b.png", "c.png"] : List Text).map (fun url => some (.str url)) := by
  intro assembler photo root
  have hthrough : ∀ n ∈ Node.nodesOf root.children, (assembler.setup []).LetsThrough n := by
    decide +kernel
  have hlead : (Node.leadPicturesOf root.children).map Node.source =
      (["a.png", "b.png", "c.png"] : List Text) := by decide +kernel
  obtain ⟨r, hr, hphotos, -⟩ := assemble_shows_pictures { Settings.default with asideClass := "box" }
    .initial [] (ThemeStore.hasNoTemplates_initial []) root .default hthrough
  refine ⟨r, hr, hphotos.trans ?_⟩
  have hmapped := congrArg (List.map fun url => some (Json.str url)) hlead
  rw [List.map_map] at hmapped
  exact hmapped

/-- Of the two images of a figure the second one is not shown. -/
theorem Assembler.assemble_of_figure_with_two_images :
    let assembler : Assembler := ⟨{ Settings.default with useRemoteImages := true }, .initial,
      Variant.standard, .empty⟩
    let photo (url : Text) : Node := .element "img" [("src", url)] []
    let root : Node := .root [.element "figure" [] [photo "a.png", photo "b.png"]]
    (∀ n ∈ Node.nodesOf root.children, (assembler.setup []).LetsThrough n) ∧
      ∃ r, assembler.assemble root [] .default = .ok r ∧
        (photosOf r.article).map (fun f => f.field? urlKey) ≠
          (root.descendants "img").map (fun n => some (.str n.source)) := by
  intro assembler photo root
  refine ⟨by decide +kernel, ?_⟩
  have hholds : (assembler.assemble root [] .default).toOption.any (fun r =>
      (photosOf r.article).length == 1 && (root.descendants "img").length == 2) = true := by
    decide +kernel
  obtain ⟨r, hr, hboth⟩ := exists_of_holds hholds
  obtain ⟨hone, htwo⟩ := (Bool.and_eq_true _ _).mp hboth
  refine ⟨r, hr, fun hall => ?_⟩
  have hlength := congrArg List.length hall
  rw [List.length_map, List.length_map, beq_iff_eq.mp hone, beq_iff_eq.mp htwo] at hlength
  cases hlength

end ArticleExport
