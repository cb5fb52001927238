import ArticleExport.Proofs.Article.Overrides
import ArticleExport.Proofs.Component.Layouts
import ArticleExport.Proofs.Spec.Sources
import Mathlib.Data.List.InsertIdx

/-!
# The in-article module

A theme defines the in-article module by templates for it.  These have no say in any other
component, so the article of a theme with such templates is that of the theme without them,
with the module among its blocks and its layout behind the other ones.
-/

namespace ArticleExport

/-! ## Themes without the templates for a component -/

namespace Theme

/-- The theme without templates for a component. -/
def withoutTemplatesFor (theme : Theme) (component : Text) : Theme :=
  match theme.value templatesKey with
  | .obj byComponent =>
    { theme with own := Table.set templatesKey (.obj (Table.erase component byComponent)) theme.own }
  | _ => theme

/-- No template of the theme has the placeholder of the templates. -/
def AvoidsTemplatesKey (theme : Theme) : Prop :=
  ∀ component spec template, theme.template? component spec = .ok (some template) →
    templatesKey ∉ Spec.tokens template

variable {theme : Theme} {component : Text}

theorem value_withoutTemplatesFor (component : Text) {key : Text} (h : key ≠ templatesKey) :
    (theme.withoutTemplatesFor component).value key = theme.value key := by
  rw [withoutTemplatesFor]
  split
  · rw [value, find?, Table.get?_set, if_neg h.symm, ← find?, ← value]
  · rfl

theorem value_templatesKey_withoutTemplatesFor
    {byComponent : Table Json} (h : theme.value templatesKey = .obj byComponent)
    (component : Text) :
    (theme.withoutTemplatesFor component).value templatesKey =
      .obj (Table.erase component byComponent) := by
  rw [withoutTemplatesFor, h]
  dsimp only
  rw [value, find?, Table.get?_set, if_pos rfl]
  rfl

/-- Where the templates are an object, there need not be any in it. -/
theorem template?_of_obj
    {byComponent : Table Json} (h : theme.value templatesKey = .obj byComponent)
    (component spec : Text) :
    theme.template? component spec =
      match (Table.get? component byComponent).getD (.obj []) with
      | .obj bySpec => .ok ((Table.get? spec bySpec).filter fun template => !template.isNull)
      | v => .error (.withoutEntries v.kindName) := by
  rw [template?, h]
  cases byComponent with
  | nil => rfl
  | cons e t => rfl

/-- Templates that are no object are none, or there is none that could be looked up. -/
theorem template?_of_not_obj
    (h : ∀ byComponent, theme.value templatesKey ≠ .obj byComponent) {component spec : Text}
    {own : Option Json} (hown : theme.template? component spec = .ok own) (other otherSpec : Text) :
    theme.template? other otherSpec = .ok none := by
  have hempty : (theme.value templatesKey).isTruthy = false := by
    rw [template?] at hown
    by_contra hsome
    rw [Bool.not_eq_false] at hsome
    simp only [hsome, Bool.not_true, Bool.false_eq_true, if_false] at hown
    cases hown
  exact template?_eq_none hempty _ _

/-- The templates for other components stay. -/
theorem template?_withoutTemplatesFor_of_ne {other : Text} (h : other ≠ component) (spec : Text) :
    (theme.withoutTemplatesFor component).template? other spec = theme.template? other spec := by
  cases hvalue : theme.value templatesKey with
  | obj byComponent =>
      rw [template?_of_obj hvalue,
        template?_of_obj (value_templatesKey_withoutTemplatesFor hvalue component),
        Table.get?_erase, if_neg h.symm]
  | _ => rw [withoutTemplatesFor, hvalue]

/-- The component has no template any more. -/
theorem template?_withoutTemplatesFor_self
    {spec : Text} {own : Option Json} (h : theme.template? component spec = .ok own)
    (other : Text) :
    (theme.withoutTemplatesFor component).template? component other = .ok none := by
  cases hvalue : theme.value templatesKey with
  | obj byComponent =>
      rw [template?_of_obj (value_templatesKey_withoutTemplatesFor hvalue component),
        Table.get?_erase, if_pos rfl]
      rfl
  | _ =>
      have hsame : theme.withoutTemplatesFor component = theme := by
        rw [withoutTemplatesFor, hvalue]
      rw [hsame]
      exact template?_of_not_obj (by simp [hvalue]) h component other

/-- A component whose templates can be looked up has one for a spec or none. -/
theorem exists_template?
    {spec : Text} {own : Option Json} (h : theme.template? component spec = .ok own)
    (other : Text) : ∃ own', theme.template? component other = .ok own' := by
  cases hvalue : theme.value templatesKey with
  | obj byComponent =>
      rw [template?_of_obj hvalue] at h ⊢
      split at h
      · exact ⟨_, rfl⟩
      · cases h
  | _ => exact ⟨none, template?_of_not_obj (by simp [hvalue]) h component other⟩

end Theme

/-! ## Rendering -/

namespace Kind

variable {k : Kind} {theme : Theme} {spec : Text}

/-- A built-in spec under a theme that may have a template for it. -/
theorem render_of_template?
    {t : Spec} (ht : Table.get? spec (SpecRegistry.entries (k.specs theme)) = some t)
    {own : Option Json} (hown : theme.template? k.name spec = .ok own) (values : Table Json) :
    k.render theme .empty spec values =
      .ok (Spec.resolve (Spec.source (Spec.unmarked values) theme) (own.getD t.template)) := by
  obtain ⟨hmem, hname⟩ := mem_specs_of_get?_eq_some ht
  have heffective : t.effective theme = .ok (own.getD t.template) := by
    rw [Spec.effective, component_of_mem_specs hmem, hname, hown]
    rfl
  rw [render_of_get?_specs ht, Spec.substitute_of_effective heffective]
  rfl

theorem exists_template?_of_render
    {t : Spec} (ht : Table.get? spec (SpecRegistry.entries (k.specs theme)) = some t)
    {values : Table Json} {v : Json} (h : k.render theme .empty spec values = .ok v) :
    ∃ own, theme.template? k.name spec = .ok own := by
  obtain ⟨hmem, hname⟩ := mem_specs_of_get?_eq_some ht
  rw [render_of_get?_specs ht] at h
  obtain ⟨template, heffective, -⟩ := exceptBind_eq_ok (exceptMapError_eq_ok h)
  obtain ⟨own, hown, -⟩ := exceptBind_eq_ok heffective
  rw [component_of_mem_specs hmem, hname] at hown
  exact ⟨own, hown⟩

theorem specs_withoutTemplatesFor (k : Kind) (theme : Theme) (component : Text) :
    k.specs (theme.withoutTemplatesFor component) = k.specs theme := by
  refine specs_congr ?_ k
  intro key hkey
  rw [Theme.value_withoutTemplatesFor component (ne_of_mem_of_not_mem hkey (by decide))]

/-- Templates for a component have no say in the specs of other ones. -/
theorem render_withoutTemplatesFor
    (htheme : theme.AvoidsTemplatesKey) {component : Text} (hk : k.name ≠ component)
    (hknown : k.knows theme spec = true) (values : Table Json) :
    k.render theme .empty spec values =
      k.render (theme.withoutTemplatesFor component) .empty spec values := by
  obtain ⟨t, ht⟩ := Option.isSome_iff_exists.mp hknown
  obtain ⟨hmem, hname⟩ := mem_specs_of_get?_eq_some ht
  have hsame : Table.get? spec
      (SpecRegistry.entries (k.specs (theme.withoutTemplatesFor component))) = some t := by
    rw [specs_withoutTemplatesFor]
    exact ht
  have hsubstitute : t.substitute values theme =
      t.substitute values (theme.withoutTemplatesFor component) := by
    refine Spec.substitute_congr t ?_ ?_
    · rw [Spec.effective, Spec.effective, component_of_mem_specs hmem,
        Theme.template?_withoutTemplatesFor_of_ne hk]
    · intro template heffective key hkey
      have havoids : Theme.templatesKey ∉ Spec.tokens template := by
        obtain ⟨own, hown, hresult⟩ := exceptBind_eq_ok heffective
        obtain rfl := Except.ok.inj hresult
        cases own with
        | none => exact templatesKey_not_mem_tokens hmem
        | some template => exact htheme _ _ _ hown
      refine Spec.source_eq_of_value_eq fun _ => ?_
      rw [Theme.value_withoutTemplatesFor component]
      rintro rfl
      exact havoids hkey
  rw [render_of_get?_specs ht, render_of_get?_specs hsame, hsubstitute]

end Kind

namespace Setup

variable {settings : Settings} {theme : Theme} {factory : Option Factory}

/-- Under a theme and the same one without templates for the in-article module all other
components render alike. -/
theorem rendersAlikeFor_withoutTemplatesFor
    (settings : Settings) (htheme : theme.AvoidsTemplatesKey) (factory : Option Factory) :
    RendersAlikeFor (· ≠ .inArticle) id ⟨settings, theme, .empty, factory⟩
      ⟨settings, theme.withoutTemplatesFor Kind.inArticle.name, .empty, factory⟩ where
  settings := rfl
  factory := rfl
  value := by
    intro key hkey
    exact (Theme.value_withoutTemplatesFor _ (ne_of_mem_of_not_mem hkey (by decide))).symm
  render := fun values hk hknown _ => Kind.render_withoutTemplatesFor htheme
    (fun hname => hk (Kind.name_injective hname)) hknown values
  style := by
    intro k spec values hk hknown
    have hrender := Kind.render_withoutTemplatesFor htheme
      (fun hname => hk (Kind.name_injective hname)) hknown values
    refine ResultsAlike.of_eq (fun _ => rfl) ?_
    exact congrArg (fun x => x.bind fun v => v.toMapping.mapError Failure.fault) hrender

/-! ## Variants that no node leads to -/

/-- The setup with another factory. -/
def withFactory (s : Setup) (factory : Option Factory) : Setup := { s with factory := factory }

/-- A factory that takes the same nodes for the same variants. -/
structure TakesAlike (s : Setup) (factory : Option Factory) : Prop where
  matched : ∀ n, (s.withFactory factory).match? n = s.match? n
  keepsLooseText : (s.withFactory factory).keepsLooseText = s.keepsLooseText
  isNone : factory.isNone = s.factory.isNone

theorem make_withFactory {s : Setup} {factory : Option Factory} (h : s.TakesAlike factory)
    (c : Component) (w : Work (List Component)) :
    c.make (s.withFactory factory) w = c.make s w := by
  have hnone : (s.withFactory factory).factory.isNone = s.factory.isNone := h.isNone
  simp only [Component.make, hnone]
  rfl

mutual

theorem walk_withFactory {s : Setup} {factory : Option Factory} (h : s.TakesAlike factory) :
    ∀ n : Node, (s.withFactory factory).walk n = s.walk n
  | ⟨tag, attributes, children, text, claimed⟩ => by
      have hplain (v : Variant) (n : Node) :
          (s.withFactory factory).buildPlain v n = s.buildPlain v n := by
        rw [buildPlain, buildPlain, make_withFactory h]
        rfl
      have hmake (v : Variant) (n : Node) (w : Work (List Component)) :
          ((s.withFactory factory).create v n).make (s.withFactory factory) w =
            (s.create v n).make s w :=
        make_withFactory h _ w
      rw [walk, walk, h.keepsLooseText, h.matched, walkAll_withFactory h children]
      simp only [buildLoose, hplain, hmake]

theorem walkAll_withFactory {s : Setup} {factory : Option Factory} (h : s.TakesAlike factory) :
    ∀ ns : List Node, (s.withFactory factory).walkAll ns = s.walkAll ns
  | [] => by rw [walkAll, walkAll]
  | n :: ns => by rw [walkAll, walkAll, walk_withFactory h n, walkAll_withFactory h ns]

end

/-- Variants of in-article modules take no node. -/
theorem takesAlike_filter (settings : Settings) (theme : Theme) (r : SpecRegistry)
    (variants : List Variant) (keepsLooseText : Bool) :
    TakesAlike ⟨settings, theme, r, some ⟨variants, keepsLooseText⟩⟩
      (some ⟨variants.filter (·.kind ≠ .inArticle), keepsLooseText⟩) where
  matched := by
    intro n
    let take (v : Variant) : Option (Variant × Node) := (v.kind.match? settings n).map fun m => (v, m)
    have hmodule {v : Variant} (hv : v.kind = .inArticle) : take v = none := by
      simp only [take, hv, Kind.match?, Option.map_none]
    change (variants.filter (·.kind ≠ .inArticle)).findSome? take = variants.findSome? take
    induction variants with
    | nil => rfl
    | cons v variants ih =>
        rw [List.findSome?_cons]
        by_cases hv : v.kind = .inArticle
        · rw [List.filter_cons_of_neg (by simpa using hv), ih, hmodule hv]
        · rw [List.filter_cons_of_pos (by simpa using hv), List.findSome?_cons, ih]
  keepsLooseText := rfl
  isNone := rfl

theorem flow_withFactory {s : Setup} {factory : Option Factory} (h : s.TakesAlike factory)
    (root : Node) : (s.withFactory factory).flow root = s.flow root := by
  rw [flow, flow, walkAll_withFactory h]
  rfl

end Setup

/-! ## Articles without anchors -/

/-- Where everything stands in the flow there is nothing to resolve. -/
theorem resolveAnchors_of_inFlow
    (theme : Theme) {cs : List Component} (h : ∀ c ∈ cs, c.side = none) (layouts : Table Json) :
    resolveAnchors theme cs layouts = .ok ⟨cs, layouts, 0⟩ := by
  have hattach (i : Nat) :
      Anchoring.attach theme ⟨cs, layouts, 0⟩ i = .ok ⟨cs, layouts, 0⟩ := by
    rw [Anchoring.attach]
    cases hc : cs[i]? with
    | none => rfl
    | some c => simp only [h c (List.mem_of_getElem? hc)]
  rw [resolveAnchors]
  generalize List.range cs.length = indices
  induction indices with
  | nil => rfl
  | cons i indices ih =>
      rw [List.foldlM_cons, hattach]
      exact ih

namespace Setup

variable {s : Setup} {root : Node}

/-- Every component that the content becomes stands in the flow. -/
def StaysInFlow (s : Setup) (root : Node) : Prop :=
  ∀ cs, (s.walkAll root.children).result = .ok cs → ∀ c ∈ cs, c.isAnchored = false

theorem StaysInFlow.side_of_flow (h : s.StaysInFlow root) {cs : List Component}
    (hcs : (s.flow root).result = .ok cs) : ∀ c ∈ cs, c.side = none := by
  obtain ⟨_, -, hwalk, -⟩ := Work.andThen_result_eq_ok hcs
  intro c hc
  simpa [Component.isAnchored] using h cs hwalk c hc

/-- The layout of the module has a name that no other component enters. -/
theorem moduleLayoutName_not_mem_flow {cs : List Component} (hcs : (s.flow root).result = .ok cs) :
    moduleLayoutName ∉ Table.keys (s.flow root).ledger.layouts := by
  obtain ⟨_, -, hwalk, hledger⟩ := Work.andThen_result_eq_ok hcs
  obtain ⟨styles, hstyles⟩ := s.tagStyles_ledger
  intro hname
  rw [flow, hledger, hstyles] at hname
  rcases Table.mem_keys_merge.mp hname with hbefore | hwalked
  · cases hbefore
  · exact (yields_of_walkAll root.children hwalk).moduleLayoutName_not_mem hwalked

theorem assemble_of_flow_error {f : Failure} (h : (s.flow root).result = .error f)
    (info : ArticleInfo) : s.assemble root info = .error f := by
  have hcomponents : (s.components root).result = .error f := by
    rw [components_eq_flow, Work.andThen_of_error h]
  change (s.components root).result.bind _ = _
  rw [hcomponents]
  rfl

/-- The article of components in the flow and a module that stands in it too. -/
theorem assemble_of_flow
    {cs : List Component} (hcs : (s.flow root).result = .ok cs) (hflow : ∀ c ∈ cs, c.side = none)
    {entered : Ledger} {module : Component} (hmodule : s.module = ⟨entered, .ok module⟩)
    (hside : module.side = none) (info : ArticleInfo) :
    s.assemble root info =
      let ledger := (s.flow root).ledger.merge entered
      .ok ⟨s.article info ledger (insertModule s.settings.inArticlePosition module cs)
        ledger.layouts, ledger.bundles, ledger.issues⟩ := by
  have hcomponents : s.components root =
      ⟨(s.flow root).ledger.merge entered,
        .ok (insertModule s.settings.inArticlePosition module cs)⟩ := by
    rw [components_eq_flow, Work.andThen_of_ok hcs, hmodule]
    change Work.mk ((s.flow root).ledger.merge (entered.merge .empty)) _ = _
    rw [Ledger.merge_empty]
    rfl
  have hblocks : ∀ c ∈ insertModule s.settings.inArticlePosition module cs, c.side = none := by
    intro c hc
    rw [insertModule] at hc
    split at hc
    · exact hflow c hc
    · rcases List.mem_append.mp hc with hc | hc
      · exact hflow c (List.mem_of_mem_take hc)
      · rcases List.mem_cons.mp hc with rfl | hc
        · exact hside
        · exact hflow c (List.mem_of_mem_drop hc)
  have hanchors := resolveAnchors_of_inFlow s.theme hblocks (s.components root).ledger.layouts
  rw [assemble_of_ok (a := ⟨_, _, 0⟩) (by rw [hcomponents]) hanchors, hcomponents]

/-! ## The module -/

/-- The component of the module before it is made. -/
def moduleStart (s : Setup) : Component := s.create .inArticle (.element "div" [] [])

theorem module_eq_of_steps
    {steps : List Step} (h : Component.inArticleSteps s.moduleStart s.theme = steps) :
    s.module =
      let work := (Making.steps s.theme s.moduleStart steps).toWork
      ⟨work.ledger, work.result.map fun c => { c with stage := .built }⟩ := by
  rw [module_eq_enclose, enclose, toWork_finish, ← h]
  rfl

/-- A module without content is all that there is of it. -/
theorem module_eq_of_empty
    (h : Kind.inArticle.render s.theme s.specs "json" [] = .ok (.obj [])) :
    s.module = .done { s.moduleStart with stage := .built } := by
  have hrender : s.moduleStart.render s.theme "json" [] = .ok (.obj []) := h
  have hsteps : Component.inArticleSteps s.moduleStart s.theme = [.json "json" []] := by
    rw [Component.inArticleSteps, hrender]
  have hrun : (Step.json "json" []).run s.theme s.moduleStart = .ok (s.moduleStart, .empty) := by
    change (s.moduleStart.render s.theme "json" []).bind _ = _
    rw [hrender]
    rfl
  rw [module_eq_of_steps hsteps, Making.steps_cons_of_ok hrun]
  rfl

/-- A module with content has a layout over all columns. -/
theorem module_eq_of_content
    {fields : Table Json} (hfields : fields ≠ [])
    (h : Kind.inArticle.render s.theme s.specs "json" [] = .ok (.obj fields)) {layout : Json}
    (hlayout : Kind.inArticle.render s.theme s.specs "layout" [] = .ok layout) :
    s.module =
      ⟨.ofLayout moduleLayoutName (.obj (Step.spanning s.theme (layout.entries?.getD []))),
        .ok { s.moduleStart with
          json := Table.set "layout" (.str moduleLayoutName) fields, stage := .built }⟩ := by
  let c : Component := { s.moduleStart with json := fields }
  have hrender : s.moduleStart.render s.theme "json" [] = .ok (.obj fields) := h
  have hrenderLayout : c.render s.theme "layout" [] = .ok layout := hlayout
  have hsteps : Component.inArticleSteps s.moduleStart s.theme =
      [.json "json" [], .wideLayout moduleLayoutName "layout" [] "layout"] := by
    cases fields with
    | nil => exact absurd rfl hfields
    | cons e es =>
        rw [Component.inArticleSteps, hrender]
        rfl
  have hjson : (Step.json "json" []).run s.theme s.moduleStart = .ok (c, .empty) := by
    change (s.moduleStart.render s.theme "json" []).bind _ = _
    rw [hrender]
    rfl
  have hwide : (Step.wideLayout moduleLayoutName "layout" [] "layout").run s.theme c =
      .ok (c.set "layout" (.str moduleLayoutName), .ofLayout moduleLayoutName
        (.obj (Step.spanning s.theme (layout.entries?.getD [])))) := by
    change (c.render s.theme "layout" []).bind _ = _
    rw [hrenderLayout]
    rfl
  rw [module_eq_of_steps hsteps, Making.steps_cons_of_ok hjson, Making.steps_cons_of_ok hwide]
  rfl

end Setup

/-! ## Results with the module -/

/-- The blocks of an article with a module among them. -/
def insertBlock (position : Int) (module : Json) : Json → Json
  | .arr blocks => .arr (blocks.insertIdx (modulePosition position blocks.length) module)
  | v => v

/-- The layouts of an article with that of a module behind them. -/
def appendLayout (layout : Json) : Json → Json
  | .obj layouts => .obj (layouts ++ [(moduleLayoutName, layout)])
  | v => v

/-- The result with a module among the blocks of the article, and with its layout. -/
def ExportResult.withModule (position : Int) (module layout : Json) (r : ExportResult) :
    ExportResult :=
  { r with
    article := r.article.map fun e =>
      if e.1 = ("components" : Text) then (e.1, insertBlock position module e.2)
      else if e.1 = ("componentLayouts" : Text) then (e.1, appendLayout layout e.2)
      else e }

theorem modulePosition_le (position : Int) (n : Nat) : modulePosition position n ≤ n := by
  rw [modulePosition]
  omega

theorem insertIdx_eq_take_append {α : Type} (x : α) {xs : List α} {i : Nat} (h : i ≤ xs.length) :
    xs.insertIdx i x = xs.take i ++ x :: xs.drop i := by
  induction xs generalizing i with
  | nil =>
      obtain rfl := Nat.le_zero.mp h
      rfl
  | cons y ys ih =>
      cases i with
      | zero => rfl
      | succ i => rw [List.insertIdx_succ_cons, ih (Nat.le_of_succ_le_succ h)]; rfl

/-- A module with content comes to stand at its position. -/
theorem map_fragment_insertModule
    (position : Int) {module : Component} (h : module.json ≠ []) (cs : List Component) :
    .arr ((insertModule position module cs).map Component.fragment) =
      insertBlock position module.fragment (.arr (cs.map Component.fragment)) := by
  have hle := modulePosition_le position (cs.map Component.fragment).length
  rw [insertModule, if_neg (by simpa using h), insertBlock, insertIdx_eq_take_append _ hle]
  simp only [List.map_append, List.map_cons, List.map_take, List.map_drop, List.length_map]

theorem Ledger.merge_ofLayout {l : Ledger} {name : Text} (h : name ∉ Table.keys l.layouts)
    (layout : Json) :
    l.merge (ofLayout name layout) = { l with layouts := l.layouts ++ [(name, layout)] } := by
  have hlayouts : l.layouts.merge [(name, layout)] = l.layouts ++ [(name, layout)] :=
    if_neg (mt Table.has_eq_true_iff.mp h)
  change Ledger.mk _ (l.layouts.merge [(name, layout)]) _ _ (l.issues ++ []) = _
  rw [hlayouts, List.append_nil]
  rfl

namespace Setup

/-- The article without a module is the one with it but for the blocks and the layouts. -/
theorem article_withModule
    (s : Setup) (info : ArticleInfo) (l : Ledger) (cs : List Component) {module : Component}
    (h : module.json ≠ []) (layout : Json) (bundles : List Text) (issues : List ComponentIssue) :
    (⟨s.article info { l with layouts := l.layouts ++ [(moduleLayoutName, layout)] }
        (insertModule s.settings.inArticlePosition module cs)
        (l.layouts ++ [(moduleLayoutName, layout)]), bundles, issues⟩ : ExportResult) =
      ExportResult.withModule s.settings.inArticlePosition module.fragment layout
        ⟨s.article info l cs l.layouts, bundles, issues⟩ := by
  rw [article, map_fragment_insertModule _ h]
  rfl

end Setup

theorem ResultsAlike.eq_error {ε α β : Type} {R : α → β → Prop} {f : ε} {y : Except ε β}
    (h : ResultsAlike True R (.error f) y) : y = .error f := by
  generalize hx : (.error f : Except ε α) = x at h
  cases h with
  | ok => cases hx
  | error g => rw [Except.error.inj hx]
  | failed hlax => exact (hlax trivial).elim

namespace Setup

section Twins

variable (settings : Settings) {theme : Theme} (variants : List Variant) (keepsLooseText : Bool)

/-- Twins of components in the flow stand in the flow. -/
theorem side_eq_none_of_twins
    {s s' : Setup} {cs ds : List Component} (htwins : List.Forall₂ (Component.Twin s s') cs ds)
    (hflow : ∀ c ∈ cs, c.side = none) : ∀ d ∈ ds, d.side = none := by
  have hsides : cs.map Component.side = ds.map Component.side :=
    map_eq_map_of_forall₂ (fun htwin => (Component.Twin.anchoredAlike s s').side htwin) htwins
  intro d hd
  obtain ⟨c, hc, heq⟩ := List.mem_map.mp (hsides ▸ List.mem_map_of_mem hd)
  rw [← heq, hflow c hc]

/-- The setup without templates for the module makes twins of what the setup with them makes of a
content tree, before the module goes in between. -/
theorem alike_flow_withoutTemplatesFor (htheme : theme.AvoidsTemplatesKey) (root : Node) :
    let s : Setup := ⟨settings, theme, .empty, some ⟨variants, keepsLooseText⟩⟩
    let s' : Setup := ⟨settings, theme.withoutTemplatesFor Kind.inArticle.name, .empty,
      some ⟨variants, keepsLooseText⟩⟩
    (s.flow root).Alike True (fun cs l ds m => List.Forall₂ (Component.Twin s s') cs ds ∧ l = m)
      (s'.flow root) := by
  intro s s'
  have hvariants : ∀ v ∈ variants.filter (·.kind ≠ .inArticle), v.kind ≠ .inArticle := by
    intro v hv
    simpa using (List.mem_filter.mp hv).2
  have halike := (rendersAlikeFor_withoutTemplatesFor settings htheme
    (some ⟨variants.filter (·.kind ≠ .inArticle), keepsLooseText⟩)).alike_flow root
    (by decide) hvariants
  have hfirst := flow_withFactory (takesAlike_filter settings theme .empty variants keepsLooseText)
    root
  have hsecond := flow_withFactory (takesAlike_filter settings
    (theme.withoutTemplatesFor Kind.inArticle.name) .empty variants keepsLooseText) root
  rw [withFactory] at hfirst hsecond
  rw [hfirst, hsecond] at halike
  refine halike.mono ?_
  rintro cs l ds m ⟨hcs, hledger⟩
  rw [Ledger.mapStyles_id, Ledger.mapStyles_id] at hledger
  exact ⟨hcs.imp fun _ _ htwin => ⟨htwin.specs, htwin.eq⟩, hledger⟩

/-- Without templates for it there is no module. -/
theorem module_withoutTemplatesFor
    {v : Json} (h : Kind.inArticle.render theme .empty "json" [] = .ok v) :
    let s' : Setup := ⟨settings, theme.withoutTemplatesFor Kind.inArticle.name, .empty,
      some ⟨variants, keepsLooseText⟩⟩
    s'.module = .done { s'.moduleStart with stage := .built } := by
  intro s'
  obtain ⟨own, hown⟩ := Kind.exists_template?_of_render rfl h
  have hrender := Kind.render_of_template? (k := .inArticle)
    (t := ⟨"in_article", "json", "JSON", .obj []⟩) rfl
    (Theme.template?_withoutTemplatesFor_self hown "json") []
  exact module_eq_of_empty (s := s') hrender

/-- Templates for the in-article module put the module among the blocks and its layout behind the
other layouts, and change nothing else. -/
theorem assemble_eq_map_withModule
    (htheme : theme.AvoidsTemplatesKey) {fields : Table Json} (hfields : fields ≠ [])
    (hmodule : Kind.inArticle.render theme .empty "json" [] = .ok (.obj fields)) {layout : Json}
    (hlayout : Kind.inArticle.render theme .empty "layout" [] = .ok layout) (root : Node)
    (info : ArticleInfo) :
    let s : Setup := ⟨settings, theme, .empty, some ⟨variants, keepsLooseText⟩⟩
    let s' : Setup := ⟨settings, theme.withoutTemplatesFor Kind.inArticle.name, .empty,
      some ⟨variants, keepsLooseText⟩⟩
    s.StaysInFlow root →
    s.assemble root info = (s'.assemble root info).map (·.withModule settings.inArticlePosition
      (.obj (Table.set "layout" (.str moduleLayoutName) fields))
      (.obj (Step.spanning theme (layout.entries?.getD [])))) := by
  intro s s' hstays
  have halike := alike_flow_withoutTemplatesFor settings variants keepsLooseText htheme root
  change ResultsAlike True _ (s.flow root).result (s'.flow root).result at halike
  cases hcs : (s.flow root).result with
  | error f =>
      rw [hcs] at halike
      rw [assemble_of_flow_error hcs, assemble_of_flow_error halike.eq_error]
      rfl
  | ok cs =>
      obtain ⟨ds, hds, htwins, hledger⟩ := halike.exists_of_eq_ok hcs
      have hflow := hstays.side_of_flow hcs
      have hflow' := side_eq_none_of_twins htwins hflow
      have hwith := assemble_of_flow hcs hflow
        (module_eq_of_content (s := s) hfields hmodule hlayout) rfl info
      have hwithout := assemble_of_flow hds hflow'
        (module_withoutTemplatesFor settings variants keepsLooseText hmodule) rfl info
      have harticle := (rendersAlikeFor_withoutTemplatesFor settings htheme
        (some ⟨variants, keepsLooseText⟩)).article_eq info (s.flow root).ledger htwins
        (s.flow root).ledger.layouts
      rw [hwith, hwithout]
      dsimp only
      rw [Ledger.merge_ofLayout (moduleLayoutName_not_mem_flow hcs), Ledger.merge_empty, ← hledger]
      have hcontent := Table.set_ne_nil "layout" (.str moduleLayoutName) fields
      refine congrArg Except.ok ((article_withModule s info _ cs hcontent _ _ _).trans ?_)
      -- A module without content is not among the blocks.
      change ExportResult.withModule _ _ _ ⟨s.article info _ cs _, _, _⟩ =
        ExportResult.withModule _ _ _ ⟨s'.article info _ ds _, _, _⟩
      rw [harticle]
      rfl

end Twins

end Setup

/-- Templates for the in-article module put the module at its position among the blocks and its
layout, which goes over all columns of the article, behind the other layouts.  The rest of the
article, the bundles and the issues are the same as without them, and so are failures. -/
theorem Assembler.assemble_inserts_module
    (settings : Settings) (variants : List Variant) (themes : ThemeStore) (sections : List Key)
    (htheme : (themes.used sections).AvoidsTemplatesKey) (themes' : ThemeStore)
    (sections' : List Key)
    (htheme' : themes'.used sections' =
      (themes.used sections).withoutTemplatesFor Kind.inArticle.name)
    {fields : Table Json} (hfields : fields ≠ [])
    (hmodule : Kind.inArticle.render (themes.used sections) .empty "json" [] = .ok (.obj fields))
    (root : Node) (info : ArticleInfo)
    (hflow : ((⟨settings, themes, variants, .empty⟩ : Assembler).setup sections).StaysInFlow
      root) :
    ∃ layout : Table Json,
      Table.get? "columnStart" layout = some (.int 0) ∧
      (∀ r, (⟨settings, themes, variants, .empty⟩ : Assembler).assemble root sections info = .ok r →
        (Table.get? "layout" r.article).bind (·.field? "columns") =
          Table.get? "columnSpan" layout) ∧
      (⟨settings, themes, variants, .empty⟩ : Assembler).assemble root sections info =
        ((⟨settings, themes', variants, .empty⟩ : Assembler).assemble root sections' info).map
          (·.withModule settings.inArticlePosition
            (.obj (Table.set "layout" (.str moduleLayoutName) fields)) (.obj layout)) := by
  let s := (⟨settings, themes, variants, .empty⟩ : Assembler).setup sections
  obtain ⟨layout, hlayout⟩ : ∃ v, Kind.inArticle.render (themes.used sections) .empty "layout" [] =
      .ok v := by
    obtain ⟨own, hown⟩ := Kind.exists_template?_of_render rfl hmodule
    obtain ⟨own', hown'⟩ := Theme.exists_template? hown "layout"
    exact ⟨_, Kind.render_of_template? rfl hown' []⟩
  have hspan (layout : Table Json) :
      Table.get? "columnSpan" (Step.spanning s.theme layout) =
        some (s.theme.value "layout_columns") := by
    rw [Step.spanning, Table.get?_set, if_pos rfl]
  refine ⟨Step.spanning s.theme (layout.entries?.getD []), ?_, ?_, ?_⟩
  · rw [Step.spanning, Table.get?_set, if_neg (by decide), Table.get?_set, if_pos rfl]
  · intro r hr
    obtain ⟨cs, a, -, -, rfl⟩ := Setup.assemble_eq_ok hr
    rw [hspan]
    rfl
  · rw [assemble, assemble, setup, setup, htheme']
    exact Setup.assemble_eq_map_withModule settings variants true htheme hfields hmodule hlayout root
      info hflow

theorem Theme.avoidsTemplatesKey_withTemplates {templates : Templates} (h : templates.Sound)
    (theme : Theme) : (theme.withTemplates templates).AvoidsTemplatesKey := by
  intro component spec template htemplate
  rw [template?_withTemplates h] at htemplate
  exact (h.of_find?_eq_some (Except.ok.inj htemplate)).2

/-- An advertisement between two paragraphs, under a theme that customizes body text too. -/
theorem Assembler.assemble_inserts_module_of_advertisement :
    let settings := { Settings.default with inArticlePosition := 1 }
    let text : Json := .obj [("role", "body"), ("text", "#text#")]
    let module : Table Json := [("role", "body"), ("text", "Ad")]
    let templates : Templates := [("body", [("json", text)]),
      ("in_article", [("json", .obj module), ("layout", .obj [("margin", .int 5)])])]
    let theme := (⟨"Blue", []⟩ : Theme).withTemplates templates
    let themes : ThemeStore := ⟨[("Blue", theme)], "Blue", []⟩
    let themes' : ThemeStore :=
      ⟨[("Blue", theme.withoutTemplatesFor Kind.inArticle.name)], "Blue", []⟩
    let root : Node := .root [.element "p" [] [.ofText "A"], .element "p" [] [.ofText "B"]]
    ∃ layout r r',
      (⟨settings, themes, Variant.standard, .empty⟩ : Assembler).assemble root [] .default = .ok r ∧
      (⟨settings, themes', Variant.standard, .empty⟩ : Assembler).assemble root [] .default = .ok r' ∧
      r = r'.withModule 1 (.obj (Table.set "layout" (.str moduleLayoutName) module)) (.obj layout) ∧
      Table.get? "columnStart" layout = some (.int 0) ∧
      (allFragments r.article).map (·.field? "text") =
        [some (.str "<p>A</p>"), some (.str "Ad"), some (.str "<p>B</p>")] := by
  intro settings text module templates theme themes themes' root
  have hsound : templates.Sound := by decide +kernel
  have hmodule : Kind.inArticle.render theme .empty "json" [] = .ok (.obj module) :=
    Kind.render_of_template? (k := .inArticle) rfl (Theme.template?_withTemplates hsound _ _) []
  have hstays : ((⟨settings, themes, Variant.standard, .empty⟩ : Assembler).setup []).StaysInFlow
      root := by
    have hholds : (((⟨settings, themes, Variant.standard, .empty⟩ : Assembler).setup []).walkAll
        root.children).result.toOption.all (·.all fun c => !c.isAnchored) = true := by
      decide +kernel
    intro cs hcs c hc
    rw [hcs] at hholds
    simpa using List.all_eq_true.mp hholds c hc
  have havoids : theme.AvoidsTemplatesKey := Theme.avoidsTemplatesKey_withTemplates hsound _
  obtain ⟨layout, hstart, -, hinserted⟩ := assemble_inserts_module settings Variant.standard themes []
    havoids themes' [] rfl (List.cons_ne_nil _ _) hmodule root .default hstays
  have hshown : ((⟨settings, themes, Variant.standard, .empty⟩ : Assembler).assemble root []
      .default).toOption.any (fun r => (allFragments r.article).map (·.field? "text") ==
        [some (.str "<p>A</p>"), some (.str "Ad"), some (.str "<p>B</p>")]) = true := by
    decide +kernel
  obtain ⟨r, hr, htexts⟩ := exists_of_holds hshown
  obtain ⟨r', hr', heq⟩ := exceptMap_eq_ok (hinserted.symm.trans hr)
  exact ⟨layout, r, r', hr, hr', heq.symm, hstart, beq_iff_eq.mp htexts⟩

end ArticleExport
