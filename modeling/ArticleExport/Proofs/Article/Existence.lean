import ArticleExport.Proofs.Article.Light
import ArticleExport.Proofs.Component.Familiar
import ArticleExport.Proofs.Component.Matching
import ArticleExport.Proofs.Walk.Reach

/-!
# Which content keeps an article from coming about

With nothing but the built-in templates an article comes about whatever the content is, but
for one thing: where pictures are bundled, the address of each picture that is shown has to
lead to a file name.  An address that does not ends the walk, and the first such address in
the order of the document is the one that is reported.

A variant takes no node from which its component could not be built, and the components
beside the flow bring a layout of their own.
-/

namespace ArticleExport

/-! ## Pictures without a file name -/

/-- An address has no file name only where its host is malformed. -/
theorem Address.exists_wording_of_fileName {t : Text} {f : Fault} (h : fileName t = .error f) :
    ∃ wording, f = .badAddress wording := by
  rw [fileName, read] at h
  dsimp only at h
  split at h
  · cases h
  · rename_i wording _
    exact ⟨wording, (Except.error.inj h).symm⟩

namespace Node

/-- The address of an image. -/
def source (n : Node) : Text := (n.get? "src").getD []

/-- What keeps an image from being bundled, where its address has no file name. -/
def sourceFault? (n : Node) : Option Fault :=
  match Address.fileName n.source with
  | .ok _ => none
  | .error f => some f

theorem sourceFault?_eq_none_iff {n : Node} :
    n.sourceFault? = none ↔ ∃ name, Address.fileName n.source = .ok name := by
  rw [sourceFault?]
  cases Address.fileName n.source with
  | ok name => exact iff_of_true rfl ⟨name, rfl⟩
  | error f => exact iff_of_false nofun fun ⟨_, h⟩ => nomatch h

theorem sourceFault?_eq_some_iff {n : Node} {f : Fault} :
    n.sourceFault? = some f ↔ Address.fileName n.source = .error f := by
  rw [sourceFault?]
  cases Address.fileName n.source with
  | ok name => exact iff_of_false nofun nofun
  | error g => exact ⟨fun h => congrArg _ (Option.some.inj h), fun h => congrArg _ (Except.error.inj h)⟩

end Node

namespace Setup

variable {s : Setup} {settings : Settings} {theme : Theme} {n m : Node} {v : Variant}

/-- What keeps the photo that a node becomes from being bundled. -/
def photoFault? (s : Setup) (n : Node) : Option Fault :=
  if s.settings.useRemoteImages then none
  else
    match s.match? n with
    | some (v, m) => if v.kind = .image then (pictureOf m).bind Node.sourceFault? else none
    | none => none

/-- What keeps the photos of nodes from being bundled, in document order. -/
def photoFaultsOf (s : Setup) (ns : List Node) : List Fault :=
  (s.reachedOf ns).filterMap s.photoFault?

theorem photoFault?_of_match? (hmatch : s.match? n = some (v, m)) (himage : v.kind ≠ .image) :
    s.photoFault? n = none := by
  rw [photoFault?, hmatch]
  simp [himage]

theorem photoFault?_of_unmatched (hmatch : s.match? n = none) : s.photoFault? n = none := by
  rw [photoFault?, hmatch]
  simp

/-- Text is never taken as a photo. -/
theorem kind_ne_image_of_isText (htext : n.isText) (hmatch : s.match? n = some (v, m)) :
    v.kind ≠ .image := by
  intro himage
  have htag : n.tag = Node.textTag := beq_iff_eq.mp htext
  have htaken := (of_match?_eq_some hmatch).2
  rw [himage, Kind.match?, htag, if_neg (by decide), if_neg (fun h => absurd h.1 (by decide)),
    if_neg (by decide)] at htaken
  cases htaken

theorem photoFault?_of_isText (htext : n.isText) : s.photoFault? n = none := by
  cases hmatch : s.match? n with
  | none => exact photoFault?_of_unmatched hmatch
  | some found => exact photoFault?_of_match? hmatch (kind_ne_image_of_isText htext hmatch)

theorem exists_wording_of_mem_photoFaultsOf {ns : List Node} {f : Fault} (h : f ∈ s.photoFaultsOf ns) :
    ∃ wording, f = .badAddress wording := by
  obtain ⟨n, -, hfault⟩ := List.mem_filterMap.mp h
  rw [photoFault?] at hfault
  split at hfault
  · cases hfault
  · split at hfault
    · split at hfault
      · obtain ⟨picture, -, hsource⟩ := Option.bind_eq_some_iff.mp hfault
        exact Address.exists_wording_of_fileName (Node.sourceFault?_eq_some_iff.mp hsource)
      · cases hfault
    · cases hfault

/-- A walk comes to no picture without a file name just where each picture that it shows has one. -/
theorem photoFaultsOf_eq_nil_iff {ns : List Node} :
    s.photoFaultsOf ns = [] ↔
      s.settings.useRemoteImages = true ∨
        ∀ n ∈ s.reachedOf ns, ∀ (v : Variant) (m picture : Node), s.match? n = some (v, m) →
          v.kind = .image → pictureOf m = some picture →
            ∃ name, Address.fileName picture.source = .ok name := by
  rw [photoFaultsOf, List.filterMap_eq_nil_iff]
  by_cases hremote : s.settings.useRemoteImages = true
  · refine iff_of_true ?_ (.inl hremote)
    intro n _
    rw [photoFault?, if_pos hremote]
  · rw [or_iff_right hremote]
    refine forall₂_congr fun n _ => ?_
    rw [photoFault?, if_neg hremote]
    cases hmatch : s.match? n with
    | none => exact iff_of_true rfl nofun
    | some found =>
        obtain ⟨v, m⟩ := found
        dsimp only
        constructor
        · intro hnone w k picture hfound himage hpicture
          obtain ⟨rfl, rfl⟩ := Prod.mk.inj (Option.some.inj hfound)
          rw [if_pos himage, hpicture] at hnone
          exact Node.sourceFault?_eq_none_iff.mp hnone
        · intro hall
          split
          · rename_i himage
            refine Option.bind_eq_none_iff.mpr ?_
            intro picture hpicture
            exact Node.sourceFault?_eq_none_iff.mpr (hall v m picture rfl himage hpicture)
          · rfl

theorem photoFaultsOf_cons (s : Setup) (n : Node) (ns : List Node) :
    s.photoFaultsOf (n :: ns) = s.photoFaultsOf [n] ++ s.photoFaultsOf ns := by
  rw [photoFaultsOf, reachedOf_append, List.filterMap_append]
  rfl

theorem photoFaultsOf_alone (h : s.reachedOf [n] = [n]) :
    s.photoFaultsOf [n] = (s.photoFault? n).toList := by
  rw [photoFaultsOf, h, List.filterMap_cons, List.filterMap_nil]
  cases s.photoFault? n <;> rfl

theorem photoFaultsOf_into (h : s.reachedOf [n] = n :: s.reachedOf n.children)
    (hown : s.photoFault? n = none) :
    s.photoFaultsOf [n] = s.photoFaultsOf n.children := by
  rw [photoFaultsOf, h, List.filterMap_cons, hown]
  rfl

theorem photoFaultsOf_of_useRemoteImages (h : s.settings.useRemoteImages = true) (ns : List Node) :
    s.photoFaultsOf ns = [] := by
  refine List.filterMap_eq_nil_iff.mpr ?_
  intro n _
  rw [photoFault?, if_pos h]

/-! ## Components -/

theorem stop_not_mem_photoSteps (settings : Settings) (n : Node) (address : Text) (f : Failure) :
    Step.stop f ∉ photoSteps settings n address := by
  rw [photoSteps]
  split <;> simp

/-- The steps for a photo stop just where its picture has no file name. -/
theorem stop_not_mem_imageSteps {picture : Node} (hpicture : pictureOf m = some picture)
    (hbundled : settings.useRemoteImages = true ∨ picture.sourceFault? = none) (f : Failure) :
    Step.stop f ∉ Component.imageSteps settings m := by
  rw [Component.imageSteps, ← pictureOf, hpicture]
  by_cases hremote : settings.useRemoteImages = true
  · simp only [if_pos hremote]
    exact stop_not_mem_photoSteps settings m picture.source f
  · obtain ⟨name, hname⟩ := Node.sourceFault?_eq_none_iff.mp (hbundled.resolve_left hremote)
    rw [Node.source] at hname
    simp only [if_neg hremote, hname]
    intro h
    rcases List.mem_cons.mp h with heq | hrest
    · cases heq
    · exact stop_not_mem_photoSteps settings m (Component.bundleScheme ++ name) f hrest

/-- A standard variant stops at no node that it takes, a picture without a file name aside. -/
theorem stop_not_mem_recipe
    (htheme : theme.HasNoTemplates)
    (hmatch : (standard settings theme).match? n = some (v, m))
    (hphoto : (standard settings theme).photoFault? n = none)
    (parts : List Component) (fragments : List Json) (f : Failure) :
    Step.stop f ∉ (start theme v m parts).recipe settings theme fragments := by
  obtain ⟨hv, htaken⟩ : v ∈ Variant.standard ∧ v.kind.match? settings n = some m :=
    of_match?_eq_some hmatch
  simp only [Variant.standard, List.mem_cons, List.not_mem_nil, or_false] at hv
  rcases hv with rfl | rfl | rfl | rfl | rfl | rfl | rfl
  · obtain ⟨spec, hborder, -⟩ := borderStep_eq theme "aside_border_style" "default-aside"
      "aside-with-border-json" "default-aside" "aside-without-border-json"
    change _ ∉ Component.asideSteps theme fragments
    rw [Component.asideSteps, hborder]
    simp
  · change _ ∉ Component.footnotesSteps (start theme .footnotes m parts) theme
    rw [Component.footnotesSteps, footnotes_of_isBuiltIn htheme]
    simp
  · obtain ⟨picture, hpicture⟩ := Kind.exists_pictureOf htaken
    have hbundled : settings.useRemoteImages = true ∨ picture.sourceFault? = none := by
      rw [photoFault?, hmatch] at hphoto
      by_cases hremote : settings.useRemoteImages = true
      · exact .inl hremote
      · change (if settings.useRemoteImages = true then none else (pictureOf m).bind _) = _ at hphoto
        rw [if_neg hremote, hpicture] at hphoto
        exact .inr hphoto
    exact stop_not_mem_imageSteps hpicture hbundled f
  · change _ ∉ Component.quoteSteps theme m
    obtain ⟨spec, hborder, -⟩ := borderStep_eq theme "blockquote_border_style"
      "default-blockquote-with-border" "blockquote-with-border-json"
      "default-blockquote-without-border" "blockquote-without-border-json"
    rw [Component.quoteSteps]
    split
    · rename_i hfigure
      have hquotes := Kind.descendants_blockquote_ne_nil htaken hfigure
      split
      · contradiction
      · simp [Component.pullquoteSteps]
    · split
      · simp [Component.pullquoteSteps]
      · simp [Component.blockquoteSteps, hborder]
  · change _ ∉ Component.headingSteps m
    obtain rfl := Kind.eq_of_match? htaken (by decide)
    rw [Component.headingSteps]
    change (if _ then _ else _) = _ at htaken
    split
    · rename_i hlevel
      simp [hlevel] at htaken
    · simp
  · change _ ∉ Component.dividerSteps
    simp [Component.dividerSteps]
  · change _ ∉ Component.bodySteps m
    simp [Component.bodySteps]

/-- A photo whose picture has no file name stops with what is wrong with the address. -/
theorem imageSteps_of_photoFault?
    (hmatch : s.match? n = some (v, m)) {f : Fault} (hfault : s.photoFault? n = some f) :
    v.kind = .image ∧ ∃ address, Component.imageSteps s.settings m =
      [.bundle address, .stop (.fault f)] := by
  rw [photoFault?, hmatch] at hfault
  split at hfault
  · cases hfault
  · rename_i hremote
    dsimp only at hfault
    split at hfault
    · rename_i himage
      obtain ⟨picture, hpicture, hsource⟩ := Option.bind_eq_some_iff.mp hfault
      have hname := Node.sourceFault?_eq_some_iff.mp hsource
      rw [Node.source] at hname
      refine ⟨himage, picture.source, ?_⟩
      rw [Component.imageSteps, ← pictureOf, hpicture]
      simp only [if_neg hremote, hname, Node.source]
    · cases hfault

end Setup

/-! ## Walks -/

/-- Whether work ends as the faults in it say: with the first of them, or with a result where there is
none. -/
def Work.EndsBy {α : Type} (w : Work α) : List Fault → Prop
  | [] => ∃ a, w.result = .ok a
  | f :: _ => w.result = .error (.fault f)

theorem Work.EndsBy.andThen {α β : Type} {w : Work α} {k : α → Work β} {fs gs : List Fault}
    (hw : w.EndsBy fs) (hk : ∀ a, (k a).EndsBy gs) :
    (w.andThen k).EndsBy (fs ++ gs) := by
  cases fs with
  | cons f fs =>
      rw [Work.andThen_of_error hw]
      rfl
  | nil =>
      obtain ⟨a, ha⟩ := hw
      have hrest := hk a
      rw [Work.andThen_of_ok ha]
      cases gs <;> exact hrest

theorem Work.endsBy_done {α : Type} (a : α) : (Work.done a).EndsBy [] := ⟨a, rfl⟩

namespace Setup

variable {settings : Settings} {theme : Theme} {n m : Node} {v : Variant} {s : Setup}

theorem endsBy_plain (hplain : ¬v.isParent) {c : Component} {l : Ledger}
    (hbuilds : s.Builds v m [] c l) :
    (s.buildPlain v m).EndsBy [] := by
  have hmade : (s.create v m).make s (.done []) = ⟨c, l, none⟩ :=
    (make_of_not_isParent (c := s.create v m) hplain _).trans hbuilds
  rw [buildPlain, hmade]
  exact ⟨[c], rfl⟩

/-- A component around parts ends as the parts do, where it can be made of them. -/
theorem endsBy_parent (hparent : v.isParent) (hfactory : ¬s.factory.isNone)
    {w : Work (List Component)} {fs : List Fault} (hw : w.EndsBy fs)
    (hbuilds : ∀ parts, ∃ c l, s.Builds v m parts c l) :
    (((s.create v m).make s w).toWork.andThen fun c => .done [c]).EndsBy fs := by
  cases fs with
  | cons f fs =>
      rw [make_of_error (c := s.create v m) hparent hfactory hw]
      rfl
  | nil =>
      obtain ⟨parts, hparts⟩ := hw
      obtain ⟨c, l, hbuilds⟩ := hbuilds parts
      have hmade : (s.create v m).make s w = ⟨c, w.ledger.merge l, none⟩ := by
        have hfinish : s.finish { s.create v m with parts := parts.map fun p => p.variant.kind }
            (parts.map Component.fragment) = ⟨c, l, none⟩ := hbuilds
        rw [make_of_ok (c := s.create v m) hparent hfactory hparts, hfinish]
      rw [hmade]
      exact ⟨[c], rfl⟩

theorem exists_builds_of_match?
    (htheme : theme.HasNoTemplates)
    (hmatch : (standard settings theme).match? n = some (v, m))
    (hphoto : (standard settings theme).photoFault? n = none) (parts : List Component) :
    ∃ c l, (standard settings theme).Builds v m parts c l :=
  exists_builds htheme (stop_not_mem_recipe htheme hmatch hphoto parts _)

theorem toWork_finish_of_stop {c : Component} {parts : List Json} {address : Text} {f : Failure}
    (h : c.recipe s.settings s.theme parts = [.bundle address, .stop f]) :
    (s.finish c parts).toWork.result = .error f := by
  rw [finish, h]
  rfl

/-- A component without others inside fails with what is wrong with the address of its picture. -/
theorem endsBy_buildPlain
    (htheme : theme.HasNoTemplates)
    (hmatch : (standard settings theme).match? n = some (v, m)) (hplain : ¬v.isParent) :
    ((standard settings theme).buildPlain v m).EndsBy
      ((standard settings theme).photoFault? n).toList := by
  cases hfault : (standard settings theme).photoFault? n with
  | none =>
      obtain ⟨c, l, hbuilds⟩ := exists_builds_of_match? htheme hmatch hfault []
      exact endsBy_plain hplain hbuilds
  | some f =>
      obtain ⟨himage, address, hsteps⟩ := imageSteps_of_photoFault? hmatch hfault
      obtain rfl : v = .image :=
        Variant.eq_of_kind_eq (of_match?_eq_some hmatch).1 (by decide) himage
      have hstopped : ((standard settings theme).finish ((standard settings theme).create .image m)
          []).toWork.result = .error (.fault f) :=
        toWork_finish_of_stop (s := standard settings theme) hsteps
      rw [← make_of_not_isParent (c := (standard settings theme).create .image m) hplain (.done [])]
        at hstopped
      change (Work.andThen _ _).result = _
      rw [Work.andThen_of_error hstopped]

theorem endsBy_buildLoose (htheme : theme.HasNoTemplates) (n : Node) :
    ((standard settings theme).buildLoose n).EndsBy [] := by
  have hstop (f : Failure) : Step.stop f ∉
      (start theme .body (.element "p" [] [n]) []).recipe settings theme [] := by
    change _ ∉ Component.bodySteps _
    simp [Component.bodySteps]
  obtain ⟨c, l, hbuilds⟩ : ∃ c l, (standard settings theme).Builds .body (.element "p" [] [n]) [] c l :=
    exists_builds htheme hstop
  exact endsBy_plain (by decide) hbuilds

mutual

/-- A walk over a node ends with the first photo in it that cannot be bundled. -/
theorem endsBy_walk (htheme : theme.HasNoTemplates) :
    ∀ n : Node, ((standard settings theme).walk n).EndsBy
      ((standard settings theme).photoFaultsOf [n])
  | ⟨tag, attributes, children, text, claimed⟩ => by
      let n : Node := ⟨tag, attributes, children, text, claimed⟩
      let s := standard settings theme
      have hchildren : (s.walkAll n.children).EndsBy (s.photoFaultsOf n.children) :=
        endsBy_walkAll htheme children
      change (s.walk n).EndsBy (s.photoFaultsOf [n])
      rw [walk]
      by_cases htext : n.isText
      · rw [if_pos htext, photoFaultsOf_alone (reachedOf_of_isText htext), photoFault?_of_isText htext]
        split
        · exact endsBy_buildLoose htheme _
        · exact Work.endsBy_done []
      · rw [if_neg htext]
        cases hmatch : s.match? n with
        | some found =>
            obtain ⟨v, m⟩ := found
            dsimp only
            by_cases hparent : v.isParent
            · have hnone : s.photoFault? n = none := by
                refine photoFault?_of_match? hmatch ?_
                intro himage
                rw [Variant.isParent, himage] at hparent
                cases hparent
              rw [if_pos hparent, photoFaultsOf_into (reachedOf_of_parent htext hmatch hparent) hnone]
              exact endsBy_parent (s := s) hparent Bool.false_ne_true hchildren
                (exists_builds_of_match? htheme hmatch hnone)
            · rw [if_neg hparent, photoFaultsOf_alone (reachedOf_of_plain hmatch hparent)]
              exact endsBy_buildPlain htheme hmatch hparent
        | none =>
            have hnone : s.photoFault? n = none := photoFault?_of_unmatched hmatch
            dsimp only
            by_cases hunsupported : unsupportedTags.contains tag = true
            · rw [if_pos hunsupported,
                photoFaultsOf_alone (reachedOf_of_unsupported hmatch hunsupported), hnone]
              exact ⟨[], rfl⟩
            · rw [if_neg hunsupported]
              by_cases hinText : (inlineTags.contains tag && n.hasVisibleText && s.keepsLooseText) = true
              · have hboth := (Bool.and_eq_true _ _).mp ((Bool.and_eq_true _ _).mp hinText).1
                rw [if_pos hinText, photoFaultsOf_alone
                  (reachedOf_of_inText rfl hboth.2 (.inr ⟨hmatch, hboth.1⟩)), hnone]
                exact endsBy_buildLoose htheme _
              · have hopen : ¬((inlineTags.contains n.tag ∧ n.hasVisibleText) ∧ s.keepsLooseText) := by
                  rw [← Bool.and_eq_true, ← Bool.and_eq_true]
                  exact hinText
                rw [if_neg hinText, photoFaultsOf_into
                  (reachedOf_of_inside htext hmatch hunsupported hopen) hnone]
                exact hchildren

theorem endsBy_walkAll (htheme : theme.HasNoTemplates) :
    ∀ ns : List Node, ((standard settings theme).walkAll ns).EndsBy
      ((standard settings theme).photoFaultsOf ns)
  | [] => ⟨[], rfl⟩
  | n :: ns => by
      rw [walkAll, photoFaultsOf_cons]
      refine (endsBy_walk htheme n).andThen fun cs => ?_
      rw [← List.append_nil (photoFaultsOf _ ns)]
      exact (endsBy_walkAll htheme ns).andThen fun ds => Work.endsBy_done (cs ++ ds)

end

end Setup

/-! ## The styles of the markup -/

theorem exists_registerStyles {entries : Table Json}
    (hobjects : ∀ e ∈ entries, ∃ fields, e.2 = .obj fields) (styles : Table Json) :
    ∃ count, (registerStyles styles entries).2 = .ok count := by
  induction entries generalizing styles with
  | nil => exact ⟨0, rfl⟩
  | cons e entries ih =>
      obtain ⟨name, style⟩ := e
      obtain ⟨⟨fields, rfl⟩, hrest⟩ := List.forall_mem_cons.mp hobjects
      obtain ⟨count, hcount⟩ := ih hrest (Table.setIfAbsent name (.obj fields) styles)
      rw [registerStyles, Json.toMapping_obj]
      dsimp only
      rw [hcount]
      exact ⟨_, rfl⟩

namespace Setup

variable {settings : Settings} {theme : Theme}

theorem exists_tagStyles (htheme : theme.HasNoTemplates) :
    ∃ u, (standard settings theme).tagStyles.result = .ok u := by
  have hadded := addTagStyles_builtIn htheme []
  obtain ⟨count, hcount⟩ := exists_registerStyles (objects_textStyles theme) []
  rw [tagStyles]
  split
  · dsimp only
    split
    · exact ⟨⟨⟩, rfl⟩
    · rename_i styles f hfailed
      have hnone := congrArg Prod.snd (hadded.symm.trans hfailed)
      rw [hcount] at hnone
      cases hnone
  · exact ⟨⟨⟩, rfl⟩

/-- The components of a tree come about up to the first photo that cannot be bundled. -/
theorem endsBy_components (htheme : theme.HasNoTemplates) (root : Node) :
    ((standard settings theme).components root).EndsBy
      ((standard settings theme).photoFaultsOf root.children) := by
  have hstyles : (standard settings theme).tagStyles.EndsBy [] := exists_tagStyles htheme
  rw [components_eq settings htheme]
  exact hstyles.andThen fun _ => endsBy_walkAll htheme root.children

end Setup

/-! ## Anchors -/

/-- Whether a component beside the flow brings a layout of its own. -/
def Component.BringsLayout (c : Component) : Prop := c.side ≠ none → c.variant.needsLayout = false

namespace Setup

variable {settings : Settings} {theme : Theme}

theorem Builds.bringsLayout
    {v : Variant} {n : Node} {parts : List Component} {c : Component} {l : Ledger}
    (h : (standard settings theme).Builds v n parts c l) (htheme : theme.HasNoTemplates)
    (hv : v ∈ Variant.standard) (hparts : v.isParent ∨ parts = []) :
    c.BringsLayout := by
  intro hside
  rw [h.variant_eq htheme]
  by_cases haside : v.kind = .aside
  · obtain rfl : v = .aside := Variant.eq_of_kind_eq hv (by decide) haside
    rfl
  · rw [(h.makes htheme hv hparts).2, if_neg haside] at hside
    exact (hside rfl).elim

theorem bringsLayout_of_yields
    (htheme : theme.HasNoTemplates) {ns : List Node} {cs : List Component} {l : Ledger}
    (h : (standard settings theme).Yields ns cs l) :
    ∀ c ∈ cs, c.BringsLayout := by
  induction h with
  | nil => exact List.forall_mem_nil _
  | cons first rest ih ih' => exact List.forall_mem_append.mpr ⟨ih, ih'⟩
  | blank isText dropped => exact List.forall_mem_nil _
  | loose visible inText builds =>
      exact List.forall_mem_singleton.mpr (builds.bringsLayout htheme (by decide) (.inr rfl))
  | unsupported isElement unmatched tag => exact List.forall_mem_nil _
  | inside isElement unmatched supported notInText children ih => exact ih
  | plain isElement matched isPlain builds =>
      exact List.forall_mem_singleton.mpr
        (builds.bringsLayout htheme (of_match?_eq_some matched).1 (.inr rfl))
  | parent isElement matched isParent children builds ih =>
      exact List.forall_mem_singleton.mpr
        (builds.bringsLayout htheme (of_match?_eq_some matched).1 (.inl isParent))

end Setup

namespace Anchoring

variable {theme : Theme} {a b : Anchoring}

theorem exists_attach (theme : Theme) (h : ∀ c ∈ a.components, c.BringsLayout) (i : Nat) :
    ∃ b, attach theme a i = .ok b := by
  rw [attach]
  split
  · exact ⟨a, rfl⟩
  · rename_i c hc
    split
    · rename_i side target hside htarget
      have hnone (name : Text) (value : Json) : (c.set name value).variant.needsLayout = false :=
        h c (List.mem_of_getElem? hc) (by rw [hside]; exact Option.some_ne_none side)
      dsimp only
      rw [hnone]
      exact ⟨_, rfl⟩
    · exact ⟨a, rfl⟩

/-- Attaching a component changes neither sides nor variants. -/
theorem bringsLayout_attach (h : ∀ c ∈ a.components, c.BringsLayout) {i : Nat}
    (hattach : attach theme a i = .ok b) :
    ∀ c ∈ b.components, c.BringsLayout := by
  have hsame := map_attach (f := Component.BringsLayout) (fun _ _ _ _ => rfl) hattach
  have hall (cs : List Component) :
      (∀ c ∈ cs, c.BringsLayout) ↔ ∀ p ∈ cs.map Component.BringsLayout, p :=
    (List.forall_mem_map (P := id)).symm
  rw [hall, hsame, ← hall]
  exact h

theorem exists_resolveAnchors (theme : Theme) {cs : List Component}
    (h : ∀ c ∈ cs, c.BringsLayout) (layouts : Table Json) :
    ∃ a, resolveAnchors theme cs layouts = .ok a := by
  rw [resolveAnchors]
  have hall (indices : List Nat) {a : Anchoring} (ha : ∀ c ∈ a.components, c.BringsLayout) :
      ∃ b, indices.foldlM (attach theme) a = .ok b := by
    induction indices generalizing a with
    | nil => exact ⟨a, rfl⟩
    | cons i indices ih =>
        obtain ⟨c, hc⟩ := exists_attach theme ha i
        obtain ⟨b, hb⟩ := ih (bringsLayout_attach ha hc)
        refine ⟨b, ?_⟩
        rw [List.foldlM_cons, hc]
        exact hb
  exact hall _ h

end Anchoring

/-! ## Articles -/

namespace Setup

variable {settings : Settings} {theme : Theme}

/-- Under the built-in templates an article comes about where each picture that it shows can be
bundled. -/
theorem exists_assemble_of_photoFaultsOf (htheme : theme.HasNoTemplates) {root : Node}
    (hphotos : (standard settings theme).photoFaultsOf root.children = []) (info : ArticleInfo) :
    ∃ r, (standard settings theme).assemble root info = .ok r := by
  have hends : ((standard settings theme).components root).EndsBy _ := endsBy_components htheme root
  rw [hphotos] at hends
  obtain ⟨cs, hcs⟩ := hends
  obtain ⟨before, l, after, hyields, -⟩ := yields_of_components htheme hcs
  obtain ⟨a, ha⟩ := Anchoring.exists_resolveAnchors theme (bringsLayout_of_yields htheme hyields)
    ((standard settings theme).components root).ledger.layouts
  exact ⟨_, assemble_of_ok hcs ha info⟩

/-- The first picture that cannot be bundled keeps an article from coming about. -/
theorem assemble_of_photoFaultsOf (htheme : theme.HasNoTemplates) {root : Node} {f : Fault}
    (hphotos : ((standard settings theme).photoFaultsOf root.children).head? = some f)
    (info : ArticleInfo) :
    (standard settings theme).assemble root info = .error (.fault f) := by
  have hends : ((standard settings theme).components root).EndsBy _ := endsBy_components htheme root
  obtain ⟨fs, hfs⟩ := List.head?_eq_some_iff.mp hphotos
  rw [hfs] at hends
  rw [assemble]
  exact congrArg (fun r => Except.bind r _) hends

/-- Under the built-in templates an article with remote pictures comes about, whatever the content,
the settings and the values of the theme. -/
theorem exists_assemble (htheme : theme.HasNoTemplates) (hremote : settings.useRemoteImages = true)
    (root : Node) (info : ArticleInfo) :
    ∃ r, (standard settings theme).assemble root info = .ok r :=
  exists_assemble_of_photoFaultsOf htheme (photoFaultsOf_of_useRemoteImages hremote _) info

end Setup

/-- Under the built-in templates an article comes about just where pictures stay where they are or each
picture that is shown has a file name.  Otherwise the address of the first picture without one is what is
reported; nothing else in the content, the settings or the values of a theme ends the work. -/
theorem Assembler.assemble_returns_iff (settings : Settings) (themes : ThemeStore) (sections : List Key)
    (htheme : (themes.used sections).HasNoTemplates) (root : Node) (info : ArticleInfo) :
    let assembler : Assembler := ⟨settings, themes, Variant.standard, .empty⟩
    let setup : Setup := assembler.setup sections
    ((∃ r, assembler.assemble root sections info = .ok r) ↔
      settings.useRemoteImages = true ∨
        ∀ n ∈ setup.reachedOf root.children, ∀ (v : Variant) (m picture : Node),
          setup.match? n = some (v, m) → v.kind = .image → pictureOf m = some picture →
            ∃ name, Address.fileName picture.source = .ok name) ∧
      ∀ f, assembler.assemble root sections info = .error f →
        ∃ wording, f = .fault (.badAddress wording) ∧
          (setup.photoFaultsOf root.children).head? = some (.badAddress wording) := by
  intro assembler setup
  have hfirst {f : Fault} (hf : (setup.photoFaultsOf root.children).head? = some f) :
      assembler.assemble root sections info = .error (.fault f) :=
    Setup.assemble_of_photoFaultsOf htheme hf info
  refine ⟨?_, ?_⟩
  · refine Iff.trans ⟨?_, ?_⟩ (Setup.photoFaultsOf_eq_nil_iff (s := setup))
    · rintro ⟨r, hr⟩
      by_contra hfaults
      obtain ⟨f, fs, hcons⟩ := List.exists_cons_of_ne_nil hfaults
      have hfailed := hfirst (congrArg List.head? hcons)
      rw [hr] at hfailed
      cases hfailed
    · exact fun hnone => Setup.exists_assemble_of_photoFaultsOf htheme hnone info
  · intro f hf
    cases hfaults : setup.photoFaultsOf root.children with
    | nil =>
        obtain ⟨r, hr⟩ : ∃ r, assembler.assemble root sections info = .ok r :=
          Setup.exists_assemble_of_photoFaultsOf htheme hfaults info
        rw [hr] at hf
        cases hf
    | cons g gs =>
        have hg := hfirst (congrArg List.head? hfaults)
        obtain rfl := Except.error.inj (hf.symm.trans hg)
        obtain ⟨wording, rfl⟩ :=
          Setup.exists_wording_of_mem_photoFaultsOf (hfaults ▸ List.mem_cons_self)
        exact ⟨wording, rfl, rfl⟩

/-- Bundled pictures with odd addresses, and one that is not shown. -/
theorem Assembler.assemble_returns_of_odd_addresses :
    let assembler : Assembler := ⟨{ Settings.default with useRemoteImages := false }, .initial,
      Variant.standard, .empty⟩
    let photo (url : Text) : Node := .element "img" [("src", url)] []
    let root : Node := .root [photo "//[::1]:x/a;b?c#d", .element "figure" [] [photo ":/ "],
      .element "form" [] [photo "http://[x"]]
    ∃ r, assembler.assemble root [] .default = .ok r := by
  intro assembler photo root
  refine (assemble_returns_iff { Settings.default with useRemoteImages := false } .initial []
    (ThemeStore.hasNoTemplates_initial []) root .default).1.mpr ?_
  refine (Setup.photoFaultsOf_eq_nil_iff (s := assembler.setup [])).mp ?_
  decide +kernel

/-- A picture whose address has a bracket without its partner keeps the article from coming about. -/
theorem Assembler.assemble_of_unpaired_bracket :
    let assembler : Assembler := ⟨{ Settings.default with useRemoteImages := false }, .initial,
      Variant.standard, .empty⟩
    assembler.assemble (.root [.element "img" [("src", "http://[x")] []]) [] .default =
      .error (.fault (.badAddress "Invalid IPv6 URL")) := by
  intro assembler
  exact Setup.assemble_of_photoFaultsOf (ThemeStore.hasNoTemplates_initial []) rfl .default

end ArticleExport
