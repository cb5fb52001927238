import ArticleExport.Proofs.Component.Twins
import ArticleExport.Proofs.Walk.Joining

/-!
# Articles of two setups that render alike

The walk makes twins of the same nodes, the in-article modules are twins, and twins get the
same anchors.  So the articles differ in their styles at most, and only up to the map up to
which styles are rendered alike.
-/

namespace ArticleExport

theorem Except.mapError_injective {ε ε' α : Type} {f : ε → ε'} (hf : Function.Injective f)
    {x y : Except ε α} (h : x.mapError f = y.mapError f) :
    x = y := by
  cases x with
  | error e =>
      cases y with
      | error e' => exact congrArg Except.error (hf (Except.error.inj h))
      | ok b => cases h
  | ok a =>
      cases y with
      | error e => cases h
      | ok b => exact congrArg Except.ok (Except.ok.inj h)

namespace Setup

open Component (Twin)

theorem toWork_finish (s : Setup) (c : Component) (parts : List Json) :
    (s.finish c parts).toWork =
      let work := (Making.steps s.theme c (c.recipe s.settings s.theme parts)).toWork
      ⟨work.ledger, work.result.map fun e => { e with stage := .built }⟩ := by
  rw [finish]
  cases hfailure :
      (Making.steps s.theme c (c.recipe s.settings s.theme parts)).failure with
  | none => simp only [Making.toWork, hfailure]; rfl
  | some f => simp only [Making.toWork, hfailure]; rfl

/-- The components of a content tree before the in-article module goes in between. -/
def flow (s : Setup) (root : Node) : Work (List Component) :=
  s.tagStyles.andThen fun _ : Unit => s.walkAll root.children

theorem components_eq_flow (s : Setup) (root : Node) :
    s.components root = (s.flow root).andThen fun cs => s.module.andThen fun module =>
      .done (insertModule s.settings.inArticlePosition module cs) :=
  (Work.andThen_assoc _ _ _).symm

/-- The in-article module is made as other components are. -/
theorem module_eq_enclose (s : Setup) :
    s.module = (s.enclose .inArticle (.element "div" [] []) []).toWork := by
  have hplain : ¬Variant.inArticle.isParent := by decide
  have hbuild := make_of_not_isParent (s := s) (c := s.create .inArticle (.element "div" [] []))
    hplain (.done [])
  exact congrArg Making.toWork hbuild

theorem forall₂_insertModule {R : Component → Component → Prop}
    (hjson : ∀ {c d}, R c d → c.json = d.json) (position : Int) {cs ds : List Component}
    {c d : Component} (hmodule : R c d) (h : List.Forall₂ R cs ds) :
    List.Forall₂ R (insertModule position c cs) (insertModule position d ds) := by
  rw [insertModule, insertModule, hjson hmodule]
  split
  · exact h
  · rw [h.length_eq]
    exact List.rel_append (List.forall₂_take _ h) (.cons hmodule (List.forall₂_drop _ h))

namespace RendersAlike

variable {φ : Json → Json} {s s' : Setup}

/-- What corresponds in the runs of two setups that render alike: twins, and entries that are the
same but for the styles. -/
def Matches (φ : Json → Json) (s s' : Setup) (cs : List Component) (l : Ledger)
    (ds : List Component) (m : Ledger) : Prop :=
  List.Forall₂ (Twin s s') cs ds ∧ l.mapStyles φ = m.mapStyles φ

theorem Matches.append {cs cs' ds ds' : List Component} {l l' m m' : Ledger}
    (h : Matches φ s s' cs l ds m) (h' : Matches φ s s' cs' l' ds' m') :
    Matches φ s s' (cs ++ cs') (l.merge l') (ds ++ ds') (m.merge m') := by
  refine ⟨List.rel_append h.1 h'.1, ?_⟩
  rw [Ledger.mapStyles_merge, Ledger.mapStyles_merge, h.2, h'.2]

end RendersAlike

namespace RendersAlikeFor

open RendersAlike (Matches)

variable {kinds : Kind → Prop} {φ : Json → Json} {s s' : Setup}

theorem alike_finish
    (h : s.RendersAlikeFor kinds φ s') {c d : Component} (htwin : Twin s s' c d)
    (hk : kinds c.variant.kind) (parts : List Json) :
    (s.finish c parts).toWork.Alike True
      (fun e l f m => Twin s s' e f ∧ l.mapStyles φ = m.mapStyles φ)
      (s'.finish d parts).toWork := by
  have hsteps := h.alike_steps htwin hk
    (Component.isFamiliar_recipe c s.settings parts)
  rw [toWork_finish, toWork_finish, ← h.recipe_eq htwin hk parts]
  refine ResultsAlike.map hsteps ?_
  rintro e f ⟨hlast, hledger⟩
  exact ⟨hlast.map (f := fun e => { e with stage := .built }) (fun _ => rfl) (fun _ => rfl)
    fun _ _ => rfl, hledger⟩

/-- Twins are made around twins. -/
theorem alike_enclose
    (h : s.RendersAlikeFor kinds φ s') {v : Variant} (hk : kinds v.kind) (n : Node)
    {cs ds : List Component}
    (hparts : List.Forall₂ (Twin s s') cs ds) :
    (s.enclose v n cs).toWork.Alike True
      (fun e l f m => Twin s s' e f ∧ l.mapStyles φ = m.mapStyles φ)
      (s'.enclose v n ds).toWork := by
  have hkinds : cs.map (fun p => p.variant.kind) = ds.map fun p => p.variant.kind :=
    map_eq_map_of_forall₂ (fun htwin => by rw [htwin.variant_eq]) hparts
  have hfragments : cs.map Component.fragment = ds.map Component.fragment :=
    map_eq_map_of_forall₂ (fun htwin => htwin.fragment_eq) hparts
  rw [enclose, enclose, hkinds, hfragments]
  exact h.alike_finish (.create s s' v n _) hk _

theorem parallel
    (h : s.RendersAlikeFor kinds φ s') (hbody : kinds .body)
    (hvariants : ∀ v ∈ s.variants, kinds v.kind) :
    s.Parallel True (Matches φ s s') s' where
  matched := by
    intro n
    simp only [match?, variants, h.settings, h.factory]
  keepsLooseText := by rw [keepsLooseText, keepsLooseText, h.factory]
  factory := by rw [h.factory]
  nothing := ⟨.nil, rfl⟩
  issue := fun _ => ⟨.nil, rfl⟩
  append := Matches.append
  plain := by
    intro v n hv _
    have hk : kinds v.kind := by
      rcases hv with hv | rfl
      · exact hvariants v hv
      · exact hbody
    refine (h.alike_enclose hk n .nil).mono ?_
    rintro c l d m ⟨htwin, hledger⟩
    exact ⟨.cons htwin .nil, hledger⟩
  parent := by
    intro v n cs l ds m hv _ hparts
    refine (h.alike_enclose (hvariants v hv) n hparts.1).mono ?_
    rintro c k d o ⟨htwin, hledger⟩
    refine ⟨.cons htwin .nil, ?_⟩
    rw [Ledger.mapStyles_merge, Ledger.mapStyles_merge, hparts.2, hledger]

/-! ## The stages of assembly -/

theorem tagStyles_eq (h : s.RendersAlikeFor kinds φ s') (hbody : kinds .body) :
    s.tagStyles = s'.tagStyles := by
  let name : Text := "default-text-styles"
  have hknown (theme : Theme) : Kind.body.knows theme name = true := rfl
  have hrender := h.render [] hbody (hknown s.theme) (by decide)
  have hstyles :
      addTagStyles [] ((Kind.body.registry s.theme s.specs).find? Kind.body.name name) s.theme =
        addTagStyles [] ((Kind.body.registry s'.theme s'.specs).find? Kind.body.name name)
          s'.theme := by
    obtain ⟨t, ht⟩ := Kind.exists_find?_registry (hknown s.theme) s.specs
    obtain ⟨t', ht'⟩ := Kind.exists_find?_registry (hknown s'.theme) s'.specs
    rw [Kind.render_of_find?_eq_some ht, Kind.render_of_find?_eq_some ht'] at hrender
    have hsubstitute := Except.mapError_injective (fun _ _ => Failure.fault.inj) hrender
    rw [ht, ht', addTagStyles, addTagStyles, hsubstitute]
  change addTagStyles [] (SpecRegistry.find? _ "body" name) _ =
    addTagStyles [] (SpecRegistry.find? _ "body" name) _ at hstyles
  simp only [name] at hstyles
  simp only [tagStyles, h.settings, hstyles]

theorem alike_flow
    (h : s.RendersAlikeFor kinds φ s') (root : Node) (hbody : kinds .body)
    (hvariants : ∀ v ∈ s.variants, kinds v.kind) :
    (s.flow root).Alike True (Matches φ s s') (s'.flow root) := by
  have hstyles : s.tagStyles.Alike True (fun _ l _ m => l.mapStyles φ = m.mapStyles φ)
      s'.tagStyles := by
    rw [h.tagStyles_eq hbody]
    refine ResultsAlike.of_eq ?_ rfl
    intro _
    rfl
  refine hstyles.andThen ?_
  intro _ l _ m hbefore
  refine ((h.parallel hbody hvariants).alike_walkAll root.children).mono ?_
  rintro cs k ds o ⟨hcs, hwalk⟩
  refine ⟨hcs, ?_⟩
  rw [Ledger.mapStyles_merge, Ledger.mapStyles_merge, hbefore, hwalk]

theorem alike_module (h : s.RendersAlikeFor kinds φ s') (hmodule : kinds .inArticle) :
    s.module.Alike True (fun c l d m => Twin s s' c d ∧ l.mapStyles φ = m.mapStyles φ)
      s'.module := by
  rw [module_eq_enclose, module_eq_enclose]
  exact h.alike_enclose hmodule (.element "div" [] []) .nil

theorem article_eq
    (h : s.RendersAlikeFor kinds φ s') (info : ArticleInfo) (l : Ledger) {cs ds : List Component}
    (hcs : List.Forall₂ (Twin s s') cs ds) (layouts : Table Json) :
    s.article info l cs layouts = s'.article info l ds layouts := by
  have hfragments : cs.map Component.fragment = ds.map Component.fragment :=
    map_eq_map_of_forall₂ (fun htwin => htwin.fragment_eq) hcs
  simp only [article, articleLayout, hfragments, h.value "layout_columns" (by decide),
    h.value "layout_width" (by decide), h.value "layout_margin" (by decide),
    h.value "layout_gutter" (by decide)]

end RendersAlikeFor

namespace RendersAlike

variable {φ : Json → Json} {s s' : Setup} {root : Node}

theorem alike_components (h : s.RendersAlike φ s') :
    (s.components root).Alike True (Matches φ s s') (s'.components root) := by
  rw [components_eq_flow, components_eq_flow]
  refine (h.forAll.alike_flow root trivial fun _ _ => trivial).andThen ?_
  rintro cs l ds m ⟨hcs, hflow⟩
  refine (h.forAll.alike_module trivial).andThen ?_
  rintro c j d i ⟨hmodule, hafter⟩
  refine .ok ⟨?_, ?_⟩
  · rw [← h.settings]
    exact forall₂_insertModule (fun htwin => Json.obj.inj htwin.fragment_eq) _ hmodule hcs
  · change (l.merge (j.merge .empty)).mapStyles φ = (m.merge (i.merge .empty)).mapStyles φ
    simp only [Ledger.merge_empty, Ledger.mapStyles_merge, hflow, hafter]

/-- What is seen of an article, its bundles and its issues is the same, if it is the same whatever
styles there are that agree up to the map. -/
theorem assemble_map
    (h : s.RendersAlike φ s') (root : Node) (info : ArticleInfo) {γ : Type}
    (view : ExportResult → γ)
    (hview : ∀ {l m : Ledger} cs layouts, l.mapStyles φ = m.mapStyles φ →
      view ⟨s.article info l cs layouts, l.bundles, l.issues⟩ =
        view ⟨s.article info m cs layouts, m.bundles, m.issues⟩) :
    (s.assemble root info).map view = (s'.assemble root info).map view := by
  have hlayout (side : Side) : anchorLayout s.theme side = anchorLayout s'.theme side := by
    rw [anchorLayout, anchorLayout, h.value "layout_columns" (by decide),
      h.value "anchor_column_span" (by decide)]
  have hassembled : ResultsAlike True (fun r r' => view r = view r') (s.assemble root info)
      (s'.assemble root info) := by
    refine h.alike_components.bind ?_
    rintro cs ds ⟨hcs, hledger⟩
    have hlayouts : (s.components root).ledger.layouts = (s'.components root).ledger.layouts :=
      (Ledger.mk.inj hledger).2.1
    have hanchors := Anchoring.aligned_resolveAnchors (Twin.anchoredAlike s s') hlayout hcs
      (s.components root).ledger.layouts
    rw [← hlayouts]
    refine (hanchors.mapError Failure.fault).bind ?_
    intro a b haligned
    refine .ok ?_
    rw [← h.forAll.article_eq info _ haligned.components, ← haligned.layouts]
    exact hview _ _ hledger
  exact (hassembled.map fun hsame => hsame).eq

end RendersAlike

end Setup

end ArticleExport
