import ArticleExport.Proofs.Article.FragmentTree
import ArticleExport.Proofs.Article.Twins
import ArticleExport.Proofs.Walk.Containers
import ArticleExport.Proofs.Walk.Joining

/-!
# Plain containers are transparent

A walk makes of a plain container what it makes of the children of the container, and an aside
is made by steps in which its node has no part.  So the components of content in which a
container is unwrapped are those of the content itself, up to the nodes that the components
remember.  The anchors and the article look at no node, and so nothing else changes.
-/

namespace ArticleExport

/-! ## Components up to their nodes -/

/-- The component with another node. -/
def Component.atNode (c : Component) (n : Node) : Component := { c with node := n }

/-- Two components that differ in their nodes at most. -/
def Component.AlikeButNode (c d : Component) : Prop := d = c.atNode d.node

namespace Component.AlikeButNode

variable {c d : Component}

theorem refl (c : Component) : c.AlikeButNode c := rfl

theorem fragment_eq (h : c.AlikeButNode d) : c.fragment = d.fragment := by
  rw [h]
  rfl

theorem kind_eq (h : c.AlikeButNode d) : c.variant.kind = d.variant.kind := by
  rw [h]
  rfl

theorem set (h : c.AlikeButNode d) (name : Text) (value : Json) :
    (c.set name value).AlikeButNode (d.set name value) := by
  rw [h]
  rfl

theorem anchoredAlike : AnchoredAlike AlikeButNode where
  side := fun h => by rw [h]; rfl
  needsLayout := fun h => by rw [h]; rfl
  identifier := fun h => by rw [h]; rfl
  set := fun value _ h => h.set _ value

end Component.AlikeButNode

theorem Step.run_atNode {theme : Theme} {c d : Component} {step : Step} {entered : Ledger}
    (h : step.run theme c = .ok (d, entered)) (n : Node) :
    step.run theme (c.atNode n) = .ok (d.atNode n, entered) := by
  have hd : d.atNode n = { c.atNode n with json := d.json, side := d.side } :=
    congrArg (·.atNode n) (Step.eq_of_run h)
  rw [Step.run_eq_map (c := c) (e := c.atNode n) rfl rfl (fun _ _ => rfl), h, hd]
  rfl

/-- The node of a component has no part in the steps that are carried out on it. -/
theorem Making.steps_atNode (theme : Theme) (c : Component) (n : Node) (steps : List Step) :
    Making.steps theme (c.atNode n) steps =
      { Making.steps theme c steps with
        component := (Making.steps theme c steps).component.atNode n } := by
  induction steps generalizing c with
  | nil => rfl
  | cons step steps ih =>
      cases hc : step.run theme c with
      | error f =>
          have hrun : step.run theme (c.atNode n) = .error f := by
            rw [Step.run_eq_map (c := c) (e := c.atNode n) rfl rfl (fun _ _ => rfl), hc]
            rfl
          rw [Making.steps, Making.steps, hc, hrun]
      | ok done =>
          rw [steps_cons_of_ok hc, steps_cons_of_ok (Step.run_atNode hc n), ih]

/-- An aside is made by the same steps whatever its node is. -/
theorem Component.recipe_atNode {c : Component} (haside : c.variant.kind = .aside) (n : Node)
    (settings : Settings) (theme : Theme) (parts : List Json) :
    (c.atNode n).recipe settings theme parts = c.recipe settings theme parts := by
  simp only [recipe, atNode, haside]

namespace Setup

/-- What corresponds in the walks over content and over content in which containers are unwrapped:
components that differ in their nodes at most, and the same entries. -/
def Corresponds (cs : List Component) (l : Ledger) (ds : List Component) (m : Ledger) : Prop :=
  List.Forall₂ Component.AlikeButNode cs ds ∧ l = m

variable {s : Setup} {n : Node}

theorem corresponds_refl (cs : List Component) (l : Ledger) : Corresponds cs l cs l :=
  ⟨List.forall₂_same.mpr fun c _ => .refl c, rfl⟩

theorem alike_self (w : Work (List Component)) : w.Alike True Corresponds w :=
  ResultsAlike.of_eq (fun cs => corresponds_refl cs w.ledger) rfl

theorem alike_finish_atNode {c : Component} (haside : c.variant.kind = .aside) (n : Node)
    (parts : List Json) :
    (s.finish c parts).toWork.Alike True (fun c l d m => c.AlikeButNode d ∧ l = m)
      (s.finish (c.atNode n) parts).toWork := by
  rw [toWork_finish, toWork_finish, Component.recipe_atNode haside, Making.steps_atNode]
  generalize Making.steps s.theme c (c.recipe s.settings s.theme parts) = made
  obtain ⟨e, entered, failure⟩ := made
  cases failure with
  | some f => exact .error f
  | none => exact .ok ⟨rfl, rfl⟩

theorem alike_enclose_aside {v : Variant} (haside : v.kind = .aside) (n m : Node)
    {cs ds : List Component} (h : List.Forall₂ Component.AlikeButNode cs ds) :
    (s.enclose v n cs).toWork.Alike True (fun c l d m => c.AlikeButNode d ∧ l = m)
      (s.enclose v m ds).toWork := by
  have hkinds : cs.map (fun p => p.variant.kind) = ds.map fun p => p.variant.kind :=
    map_eq_map_of_forall₂ (fun hparts => hparts.kind_eq) h
  have hfragments : cs.map Component.fragment = ds.map Component.fragment :=
    map_eq_map_of_forall₂ (fun hparts => hparts.fragment_eq) h
  rw [enclose, enclose, hkinds, hfragments]
  exact alike_finish_atNode
    (c := { s.create v n with parts := ds.map fun p => p.variant.kind }) haside m _

theorem Corresponds.append {cs cs' ds ds' : List Component} {l l' m m' : Ledger}
    (h : Corresponds cs l ds m) (h' : Corresponds cs' l' ds' m') :
    Corresponds (cs ++ cs') (l.merge l') (ds ++ ds') (m.merge m') := by
  refine ⟨List.rel_append h.1 h'.1, ?_⟩
  rw [h.2, h'.2]

/-! ## Walks -/

theorem match?_of_isContainer (hs : s.factory = some .standard) (h : n.IsContainer s.settings) :
    s.match? n = none := by
  rw [match?, variants, hs]
  refine List.findSome?_eq_none_iff.mpr fun v hv => ?_
  by_cases hkind : v.kind = .aside
  · have hunmarked : n.hasClass s.settings.asideClass = false := Bool.eq_false_iff.mpr h.unmarked
    rw [hkind, Kind.match?, hunmarked, Bool.and_false]
    rfl
  · rw [h.untaken v hv hkind n rfl]
    rfl

theorem match?_of_isAside (hs : s.factory = some .standard) (h : n.IsAside s.settings) :
    s.match? n = some (.aside, n) := by
  rw [match?, variants, hs]
  -- Asides come first among the standard variants.
  have hfirst : (Variant.aside.kind.match? s.settings n).map (fun m => (Variant.aside, m)) =
      some (.aside, n) := congrArg (Option.map _) h.match?_eq
  change List.findSome? _ (Variant.aside :: _) = _
  rw [List.findSome?_cons, hfirst]

/-- A walk makes of a container what it makes of its children. -/
theorem walk_of_isContainer (hs : s.factory = some .standard) (h : n.IsContainer s.settings) :
    s.walk n = s.walkAll n.children := by
  have hmatch := match?_of_isContainer hs h
  obtain ⟨helement, -, hinline, hsupported, -⟩ := h
  cases n with
  | mk tag attributes children text claimed =>
      rw [walk, if_neg helement, hmatch]
      dsimp only
      rw [if_neg hsupported, Bool.eq_false_iff.mpr hinline]
      rfl

theorem walk_of_isAside (hs : s.factory = some .standard) (h : n.IsAside s.settings) :
    s.walk n =
      (((s.create .aside n).make s (s.walkAll n.children)).toWork).andThen fun c => .done [c] := by
  have hmatch := match?_of_isAside hs h
  have helement := h.isElement
  cases n with
  | mk tag attributes children text claimed =>
      rw [walk, if_neg helement, hmatch]
      rfl

/-- Unwrapping a container changes nothing of what a walk makes but the nodes of asides. -/
theorem alike_walkAll_of_unwraps (hs : s.factory = some .standard) {ns ms : List Node}
    (h : Unwraps s.settings ns ms) :
    (s.walkAll ns).Alike True Corresponds (s.walkAll ms) := by
  induction h with
  | @here n isContainer ns =>
      rw [walkAll, walk_of_isContainer hs isContainer, walkAll_append]
      exact alike_self _
  | later n _ ih => exact alike_walkAll_cons .append (alike_self _) ih
  | @inside n ms opens _ ns ih =>
      refine alike_walkAll_cons .append ?_ (alike_self _)
      -- Around a container nothing is made; an aside is made around components that are alike.
      rcases opens with hcontainer | haside
      · rw [walk_of_isContainer hs hcontainer,
          walk_of_isContainer hs (Node.isContainer_around.mpr hcontainer)]
        exact ih
      · rw [walk_of_isAside hs haside, walk_of_isAside hs (haside.around ms)]
        refine alike_singleton (alike_make_of_enclose (by decide) rfl ?_ ih)
        intro cs l ds m hparts
        refine (alike_enclose_aside rfl n (n.around ms) hparts.1).mono ?_
        rintro c k d o ⟨hc, hk⟩
        refine ⟨.cons hc .nil, ?_⟩
        rw [hparts.2, hk]

/-! ## Articles -/

theorem alike_components_of_unwraps (hs : s.factory = some .standard) {root : Node}
    {ms : List Node} (h : Unwraps s.settings root.children ms) :
    (s.components root).Alike True Corresponds (s.components (root.around ms)) := by
  have hstyles : s.tagStyles.Alike True (fun _ l _ m => l = m) s.tagStyles :=
    ResultsAlike.of_eq (R := fun _ _ => s.tagStyles.ledger = s.tagStyles.ledger) (fun _ => rfl) rfl
  have hmodule : s.module.Alike True (fun c l d m => c = d ∧ l = m) s.module :=
    ResultsAlike.of_eq (fun _ => ⟨rfl, rfl⟩) rfl
  refine hstyles.andThen ?_
  rintro _ l _ _ rfl
  refine (alike_walkAll_of_unwraps hs h).andThen ?_
  rintro cs k ds _ ⟨hcs, rfl⟩
  refine hmodule.andThen ?_
  rintro c j _ _ ⟨rfl, rfl⟩
  refine .ok ⟨?_, rfl⟩
  exact forall₂_insertModule (fun halike => Json.obj.inj halike.fragment_eq) _ (.refl c) hcs

theorem article_eq_of_alike (info : ArticleInfo) (l : Ledger) {cs ds : List Component}
    (h : List.Forall₂ Component.AlikeButNode cs ds) (layouts : Table Json) :
    s.article info l cs layouts = s.article info l ds layouts := by
  have hfragments : cs.map Component.fragment = ds.map Component.fragment :=
    map_eq_map_of_forall₂ (fun halike => halike.fragment_eq) h
  rw [article, article, hfragments]

/-- Unwrapping one container changes nothing of an article, its bundles and its issues. -/
theorem assemble_of_unwraps (hs : s.factory = some .standard) {root : Node} {ms : List Node}
    (h : Unwraps s.settings root.children ms) (info : ArticleInfo) :
    s.assemble (root.around ms) info = s.assemble root info := by
  refine (ResultsAlike.eq ?_).symm
  refine (alike_components_of_unwraps hs h).bind ?_
  rintro cs ds ⟨hcs, hledger⟩
  have hlayout (side : Side) : anchorLayout s.theme side = anchorLayout s.theme side := rfl
  have hanchors := Anchoring.aligned_resolveAnchors Component.AlikeButNode.anchoredAlike hlayout hcs
    (s.components root).ledger.layouts
  rw [← hledger]
  refine (hanchors.mapError Failure.fault).bind ?_
  intro a b haligned
  refine .ok ?_
  rw [article_eq_of_alike info _ haligned.components, haligned.layouts]

theorem assemble_of_reflTransGen (hs : s.factory = some .standard) {root : Node} {ms : List Node}
    (h : Relation.ReflTransGen (Unwraps s.settings) root.children ms) (info : ArticleInfo) :
    s.assemble (root.around ms) info = s.assemble root info := by
  induction h with
  | refl => rw [Node.around_children]
  | @tail ns ms _ step ih =>
      have hstep : s.assemble ((root.around ns).around ms) info =
          s.assemble (root.around ns) info := assemble_of_unwraps hs step info
      exact hstep.trans ih

end Setup

/-- Plain containers are transparent.  When one container is unwrapped that the walk comes by,
and so also when all of them are, the article, its bundles and its issues stay the same, or it fails
as before; then no container is left. -/
theorem Assembler.assemble_unwrapAll
    (settings : Settings) (themes : ThemeStore) (specs : SpecRegistry) (sections : List Key)
    (root : Node) (info : ArticleInfo) :
    let a : Assembler := ⟨settings, themes, Variant.standard, specs⟩
    let flat := unwrapAll settings root.children
    (∀ ms, Unwraps settings root.children ms →
      a.assemble (root.around ms) sections info = a.assemble root sections info) ∧
    a.assemble (root.around flat) sections info = a.assemble root sections info ∧
    Relation.ReflTransGen (Unwraps settings) root.children flat ∧
    ∀ ms, ¬Unwraps settings flat ms := by
  intro a flat
  let s : Setup := a.setup sections
  have hs : s.factory = some .standard := rfl
  have hreaches : Relation.ReflTransGen (Unwraps s.settings) root.children flat :=
    Unwraps.reflTransGen_unwrapAll settings root.children
  refine ⟨?_, ?_, hreaches, Unwraps.not_unwraps_unwrapAll settings root.children⟩
  · intro ms h
    exact Setup.assemble_of_unwraps (s := s) hs h info
  · exact Setup.assemble_of_reflTransGen hs hreaches info

/-- Text, an aside with text and a script, and text again, with containers around each of them; the
in-article module comes behind the first text. -/
theorem Assembler.assemble_unwrapAll_of_nested_sections :
    let settings := { Settings.default with asideClass := "box", inArticlePosition := 1 }
    let specs := SpecRegistry.empty.register
      ⟨"in_article", "json", "Ad", .obj [("role", "body"), ("text", "Ad")]⟩
    let a : Assembler := ⟨settings, ⟨[], "", []⟩, Variant.standard, specs⟩
    let text (t : Text) : Node := .element "p" [] [.ofText t]
    let script : Node := .element "script" [] []
    let root : Node := .root [.element "div" [] [text "A", .element "section" []
      [.element "div" [("class", "box")] [.element "div" [] [text "B", script]], text "C"]]]
    let opened := [text "A", .element "section" []
      [.element "div" [("class", "box")] [.element "div" [] [text "B", script]], text "C"]]
    let flat := [text "A", .element "div" [("class", "box")] [text "B", script], text "C"]
    Unwraps settings root.children opened ∧ unwrapAll settings root.children = flat ∧
      ∃ result,
        a.assemble root [] .default = .ok result ∧
        a.assemble (root.around opened) [] .default = .ok result ∧
        a.assemble (root.around flat) [] .default = .ok result ∧
        (allFragments result.article).map (·.field? "text") =
          [some (.str "<p>A</p>"), some (.str "Ad"), none, some (.str "<p>B</p>"),
            some (.str "<p>C</p>")] ∧
        result.issues = [⟨"script", none⟩] := by
  intro settings specs a text script root opened flat
  have hstep : Unwraps settings root.children opened := .here (by decide +kernel) []
  have hflat : unwrapAll settings root.children = flat := by rfl
  obtain ⟨hone, hall, -⟩ := assemble_unwrapAll settings ⟨[], "", []⟩ specs [] root .default
  have hholds : (a.assemble root [] .default).toOption.any (fun result =>
      decide ((allFragments result.article).map (·.field? "text") =
          [some (.str "<p>A</p>"), some (.str "Ad"), none, some (.str "<p>B</p>"),
            some (.str "<p>C</p>")] ∧
        result.issues = [⟨"script", none⟩])) = true := by
    decide +kernel
  obtain ⟨result, hresult, hshown⟩ := exists_of_holds hholds
  refine ⟨hstep, hflat, result, hresult, ?_, ?_, of_decide_eq_true hshown⟩
  · rw [hone opened hstep, hresult]
  · rw [← hflat, hall, hresult]

end ArticleExport
