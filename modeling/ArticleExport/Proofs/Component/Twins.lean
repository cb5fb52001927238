import ArticleExport.Proofs.Article.Alignment
import ArticleExport.Proofs.Article.Assembly
import ArticleExport.Proofs.Component.Familiar

/-!
# Components of two setups that render alike

A setup has a say in an article through the specs that its components render and through a
few values of its theme.  So two setups under which every built-in spec renders alike make
the same components, in the same order, and fail alike.  The specs of styles may render
differently, up to a given map: then the styles of the two articles agree up to this map,
and everything else is the same.
-/

namespace ArticleExport

/-! ## Ledgers up to their styles -/

namespace Table

variable {α β : Type}

theorem has_mapValues (φ : α → β) (name : Text) (t : Table α) :
    has name (mapValues φ t) = has name t := by
  rw [Bool.eq_iff_iff, has_eq_true_iff, has_eq_true_iff, keys_mapValues]

theorem mapValues_merge (φ : α → β) (s t : Table α) :
    mapValues φ (s.merge t) = (mapValues φ s).merge (mapValues φ t) := by
  induction t generalizing s with
  | nil => rfl
  | cons e t ih =>
      have hset : mapValues φ (setIfAbsent e.1 e.2 s) = setIfAbsent e.1 (φ e.2) (mapValues φ s) := by
        rw [setIfAbsent, setIfAbsent, has_mapValues]
        split
        · rfl
        · exact List.map_append
      rw [merge_cons, ih, hset]
      rfl

end Table

/-- The ledger with its styles mapped. -/
def Ledger.mapStyles (φ : Json → Json) (l : Ledger) : Ledger :=
  { l with
    textStyles := l.textStyles.mapValues φ
    componentStyles := l.componentStyles.mapValues φ }

theorem Ledger.mapStyles_merge (φ : Json → Json) (l m : Ledger) :
    (l.merge m).mapStyles φ = (l.mapStyles φ).merge (m.mapStyles φ) := by
  simp only [mapStyles, merge, Table.mapValues_merge]

theorem Ledger.mapStyles_id (l : Ledger) : l.mapStyles id = l := by
  simp only [mapStyles, Table.mapValues_id]

/-! ## Setups that render alike -/

namespace Kind

/-- A spec of a kind, resolved under a theme and under specs that count before the built-in ones. -/
def render (k : Kind) (theme : Theme) (r : SpecRegistry) (spec : Text) (values : Table Json) :
    Except Failure Json :=
  (((k.registry theme r).get k.name spec).bind fun s => s.substitute values theme).mapError .fault

/-- As `render`, to a mapping. -/
def renderMapping (k : Kind) (theme : Theme) (r : SpecRegistry) (spec : Text)
    (values : Table Json) : Except Failure Json := do
  (← k.render theme r spec values).toMapping.mapError .fault

variable {k : Kind} {theme : Theme} {r : SpecRegistry} {spec : Text}

/-- What is found under a name: what was given for it, else the kind's own spec. -/
theorem find?_registry (k : Kind) (theme : Theme) (r : SpecRegistry) (spec : Text) :
    (k.registry theme r).find? k.name spec =
      (r.find? k.name spec).or (Table.get? spec (SpecRegistry.entries (k.specs theme))) := by
  rw [SpecRegistry.find?, specsFor_registry, if_pos rfl, Table.get?_merge]
  rfl

/-- A spec that a kind knows is there, whatever was given before. -/
theorem exists_find?_registry (hknown : k.knows theme spec = true) (r : SpecRegistry) :
    ∃ t, (k.registry theme r).find? k.name spec = some t := by
  rw [find?_registry]
  cases r.find? k.name spec with
  | some t => exact ⟨t, rfl⟩
  | none => exact Option.isSome_iff_exists.mp hknown

theorem render_of_find?_eq_some {t : Spec} (h : (k.registry theme r).find? k.name spec = some t)
    (values : Table Json) :
    k.render theme r spec values = (t.substitute values theme).mapError .fault := by
  rw [render, SpecRegistry.get, h]
  rfl

/-- A built-in spec counts where nothing is given before it. -/
theorem render_of_get?_specs {t : Spec}
    (ht : Table.get? spec (SpecRegistry.entries (k.specs theme)) = some t) (values : Table Json) :
    k.render theme .empty spec values = (t.substitute values theme).mapError .fault :=
  render_of_find?_eq_some ((find?_registry_empty k theme spec).trans ht) values

/-- A built-in spec renders where nothing is given before it and the theme has no templates. -/
theorem render_builtIn
    (htheme : theme.HasNoTemplates) {t : Spec}
    (ht : Table.get? spec (SpecRegistry.entries (k.specs theme)) = some t) (values : Table Json) :
    k.render theme .empty spec values =
      .ok (Spec.resolve (Spec.source (Spec.unmarked values) theme) t.template) := by
  have heffective : t.effective theme = .ok t.template := by
    rw [Spec.effective, Theme.template?_eq_none htheme]
    rfl
  rw [render_of_get?_specs ht, Spec.substitute, heffective]
  rfl

end Kind

/-- The keys of the theme values that have a say in an article beside the specs. -/
def Theme.structuralKeys : List Text :=
  ["aside_alignment", "aside_border_style", "blockquote_border_style", "anchor_column_span",
    "layout_columns", "layout_width", "layout_margin", "layout_gutter"]

/-- Two setups under which the built-in specs of some kinds render alike, those of styles up to a
map. -/
structure Setup.RendersAlikeFor (kinds : Kind → Prop) (φ : Json → Json) (s s' : Setup) : Prop where
  settings : s.settings = s'.settings
  factory : s.factory = s'.factory
  value : ∀ key ∈ Theme.structuralKeys, s.theme.value key = s'.theme.value key
  render : ∀ {k : Kind} {spec : Text} values, kinds k → k.knows s.theme spec = true →
    spec ∉ Kind.styleSpecs →
    k.render s.theme s.specs spec values = k.render s'.theme s'.specs spec values
  style : ∀ {k : Kind} {spec : Text} values, kinds k → k.knows s.theme spec = true →
    ResultsAlike True (fun v w => φ v = φ w) (k.renderMapping s.theme s.specs spec values)
      (k.renderMapping s'.theme s'.specs spec values)

/-- Two setups under which built-in specs render alike, those of styles up to a map. -/
structure Setup.RendersAlike (φ : Json → Json) (s s' : Setup) : Prop where
  settings : s.settings = s'.settings
  factory : s.factory = s'.factory
  value : ∀ key ∈ Theme.structuralKeys, s.theme.value key = s'.theme.value key
  render : ∀ {k : Kind} {spec : Text} values, k.knows s.theme spec = true →
    spec ∉ Kind.styleSpecs →
    k.render s.theme s.specs spec values = k.render s'.theme s'.specs spec values
  style : ∀ {k : Kind} {spec : Text} values, k.knows s.theme spec = true →
    ResultsAlike True (fun v w => φ v = φ w) (k.renderMapping s.theme s.specs spec values)
      (k.renderMapping s'.theme s'.specs spec values)

theorem Setup.RendersAlike.forAll {φ : Json → Json} {s s' : Setup} (h : s.RendersAlike φ s') :
    s.RendersAlikeFor (fun _ => True) φ s' :=
  ⟨h.settings, h.factory, h.value, fun values _ => h.render values, fun values _ => h.style values⟩

/-- Two components of two setups that differ in nothing but where they look their specs up. -/
structure Component.Twin (s s' : Setup) (c d : Component) : Prop where
  specs : c.specs = c.variant.kind.registry s.theme s.specs
  eq : d = c.withSpecs (c.variant.kind.registry s'.theme s'.specs)

namespace Component.Twin

variable {s s' : Setup} {c d : Component}

theorem create (s s' : Setup) (v : Variant) (n : Node) (kinds : List Kind) :
    Twin s s' { s.create v n with parts := kinds } { s'.create v n with parts := kinds } :=
  ⟨rfl, rfl⟩

theorem map (h : Twin s s' c d) {f : Component → Component}
    (hvariant : ∀ e, (f e).variant = e.variant) (hspecs : ∀ e, (f e).specs = e.specs)
    (hf : ∀ e r, f (e.withSpecs r) = (f e).withSpecs r) :
    Twin s s' (f c) (f d) := by
  obtain ⟨hown, rfl⟩ := h
  refine ⟨?_, ?_⟩
  · rw [hspecs, hvariant]
    exact hown
  · rw [hf, hvariant]

theorem set (h : Twin s s' c d) (name : Text) (value : Json) :
    Twin s s' (c.set name value) (d.set name value) :=
  h.map (f := fun e => e.set name value) (fun _ => rfl) (fun _ => rfl) fun _ _ => rfl

theorem refer (h : Twin s s' c d) (property name : Text) :
    Twin s s' (Step.refer c property name) (Step.refer d property name) := by
  rw [Step.refer, Step.refer]
  split
  · exact h
  · exact h.set property _

theorem variant_eq (h : Twin s s' c d) : d.variant = c.variant := by
  rw [h.eq]
  rfl

theorem fragment_eq (h : Twin s s' c d) : c.fragment = d.fragment := by
  rw [h.eq]
  rfl

theorem render_eq (h : Twin s s' c d) (spec : Text) (values : Table Json) :
    c.render s.theme spec values = c.variant.kind.render s.theme s.specs spec values ∧
      d.render s'.theme spec values = c.variant.kind.render s'.theme s'.specs spec values := by
  obtain ⟨hown, rfl⟩ := h
  refine ⟨?_, rfl⟩
  rw [Component.render, hown]
  rfl

theorem renderMapping_eq (h : Twin s s' c d) (spec : Text) (values : Table Json) :
    c.renderMapping s.theme spec values =
        c.variant.kind.renderMapping s.theme s.specs spec values ∧
      d.renderMapping s'.theme spec values =
        c.variant.kind.renderMapping s'.theme s'.specs spec values := by
  obtain ⟨hfirst, hsecond⟩ := h.render_eq spec values
  rw [Component.renderMapping, Component.renderMapping, hfirst, hsecond]
  exact ⟨rfl, rfl⟩

theorem anchoredAlike (s s' : Setup) : AnchoredAlike (Twin s s') where
  side := fun h => by rw [h.eq]; rfl
  needsLayout := fun h => by rw [h.variant_eq]
  identifier := fun h => by rw [h.eq]; rfl
  set := fun value _ h => h.set _ value

end Component.Twin

namespace Setup.RendersAlikeFor

open Component (Twin)

variable {kinds : Kind → Prop} {φ : Json → Json} {s s' : Setup} {c d : Component}

/-! ## What twins are made of -/

theorem borderStep_eq (h : s.RendersAlikeFor kinds φ s') {key : Text} (hkey : key ∈ Theme.structuralKeys)
    (withBorder withSpec without withoutSpec : Text) :
    Component.borderStep s.theme key withBorder withSpec without withoutSpec =
      Component.borderStep s'.theme key withBorder withSpec without withoutSpec := by
  rw [Component.borderStep, Component.borderStep, h.value key hkey]

theorem asideSteps_eq (h : s.RendersAlikeFor kinds φ s') (parts : List Json) :
    Component.asideSteps s.theme parts = Component.asideSteps s'.theme parts := by
  rw [Component.asideSteps, Component.asideSteps, h.borderStep_eq (by decide),
    h.value "aside_alignment" (by decide)]

theorem quoteSteps_eq (h : s.RendersAlikeFor kinds φ s') (n : Node) :
    Component.quoteSteps s.theme n = Component.quoteSteps s'.theme n := by
  have hkey : ("blockquote_border_style" : Text) ∈ Theme.structuralKeys := by decide
  simp only [Component.quoteSteps, Component.blockquoteSteps, h.borderStep_eq hkey]

theorem footnotes_eq
    (h : s.RendersAlikeFor kinds φ s') (htwin : Twin s s' c d) (hk : kinds c.variant.kind)
    (hkind : c.variant.kind = .footnotes) (number : Nat) (items : List Node) :
    c.footnotes s.theme number items = d.footnotes s'.theme number items := by
  induction items generalizing number with
  | nil => rfl
  | cons item items ih =>
      have hnote (values : Table Json) : c.render s.theme "footnote-json" values =
          d.render s'.theme "footnote-json" values := by
        obtain ⟨hfirst, hsecond⟩ := htwin.render_eq "footnote-json" values
        rw [hkind] at hfirst hsecond hk
        rw [hfirst, hsecond]
        exact h.render values hk rfl (by decide)
      simp only [Component.footnotes, hnote, ih]

theorem inArticleSteps_eq
    (h : s.RendersAlikeFor kinds φ s') (htwin : Twin s s' c d) (hk : kinds c.variant.kind)
    (hkind : c.variant.kind = .inArticle) :
    Component.inArticleSteps c s.theme = Component.inArticleSteps d s'.theme := by
  obtain ⟨hfirst, hsecond⟩ := htwin.render_eq "json" []
  have hmodule : c.render s.theme "json" [] = d.render s'.theme "json" [] := by
    rw [hkind] at hfirst hsecond hk
    rw [hfirst, hsecond]
    exact h.render [] hk rfl (by decide)
  simp only [Component.inArticleSteps, hmodule]

/-- Twins around the same fragments are made by the same steps. -/
theorem recipe_eq
    (h : s.RendersAlikeFor kinds φ s') (htwin : Twin s s' c d) (hk : kinds c.variant.kind)
    (parts : List Json) :
    c.recipe s.settings s.theme parts = d.recipe s'.settings s'.theme parts := by
  have hnode : c.node = d.node := by
    rw [htwin.eq]
    rfl
  rw [Component.recipe, Component.recipe, htwin.variant_eq, ← h.settings, ← hnode]
  cases hkind : c.variant.kind with
  | aside => rw [h.asideSteps_eq parts]
  | footnotes =>
      have hsteps : Component.footnotesSteps c s.theme = Component.footnotesSteps d s'.theme := by
        rw [Component.footnotesSteps, Component.footnotesSteps, h.footnotes_eq htwin hk hkind, hnode]
      rw [hsteps]
  | quote => rw [h.quoteSteps_eq]
  | inArticle => rw [h.inArticleSteps_eq htwin hk hkind]
  | _ => rfl

/-- A step makes twins of twins, and enters the same but for the styles. -/
theorem alike_run
    (h : s.RendersAlikeFor kinds φ s') (htwin : Twin s s' c d) (hk : kinds c.variant.kind)
    {step : Step}
    (hstep : step.isFamiliar c.variant.kind s.theme = true) :
    ResultsAlike True
      (fun x y => (x.1.variant = c.variant ∧ Twin s s' x.1 y.1) ∧
        x.2.mapStyles φ = y.2.mapStyles φ)
      (step.run s.theme c) (step.run s'.theme d) := by
  have hrender {spec : Text} (hspec : (c.variant.kind.knows s.theme spec &&
      !Kind.styleSpecs.contains spec) = true) (values : Table Json) :
      c.render s.theme spec values = d.render s'.theme spec values := by
    obtain ⟨hknown, hplain⟩ := (Bool.and_eq_true _ _).mp hspec
    obtain ⟨hfirst, hsecond⟩ := htwin.render_eq spec values
    rw [hfirst, hsecond]
    exact h.render values hk hknown (by simpa using hplain)
  have hmapping {spec : Text} (hspec : (c.variant.kind.knows s.theme spec &&
      !Kind.styleSpecs.contains spec) = true) (values : Table Json) :
      c.renderMapping s.theme spec values = d.renderMapping s'.theme spec values := by
    rw [Component.renderMapping, Component.renderMapping, hrender hspec]
  have hstyle {spec : Text} (hspec : c.variant.kind.knows s.theme spec = true)
      (values : Table Json) :
      ResultsAlike True (fun v w => φ v = φ w) (c.renderMapping s.theme spec values)
        (d.renderMapping s'.theme spec values) := by
    obtain ⟨hfirst, hsecond⟩ := htwin.renderMapping_eq spec values
    rw [hfirst, hsecond]
    exact h.style values hk hspec
  cases step with
  | json spec values =>
      refine (ResultsAlike.of_eq (fun _ => rfl) (hrender hstep values)).bind ?_
      rintro v _ rfl
      exact .ok ⟨⟨rfl, htwin.map (f := fun e => { e with json := v.entries?.getD [] })
        (fun _ => rfl) (fun _ => rfl) fun _ _ => rfl⟩, rfl⟩
  | textStyle name spec values property =>
      refine (hstyle hstep values).bind ?_
      intro v w hvw
      refine .ok ⟨⟨rfl, htwin.set property _⟩, ?_⟩
      exact congrArg (fun u => (Ledger.ofTextStyle name u)) hvw
  | layout name spec values property =>
      refine (ResultsAlike.of_eq (fun _ => rfl) (hmapping hstep values)).bind ?_
      rintro v _ rfl
      refine .ok ⟨⟨?_, htwin.refer property name⟩, rfl⟩
      rw [Step.refer_eq]
  | wideLayout name spec values property =>
      refine (ResultsAlike.of_eq (fun _ => rfl) (hrender hstep values)).bind ?_
      rintro v _ rfl
      refine .ok ⟨⟨?_, htwin.refer property name⟩, ?_⟩
      · rw [Step.refer_eq]
      · rw [Step.spanning, Step.spanning, h.value "layout_columns" (by decide)]
  | style name spec values property =>
      refine (hstyle hstep values).bind ?_
      intro v w hvw
      refine .ok ⟨⟨rfl, htwin.set property _⟩, ?_⟩
      exact congrArg (fun u => (Ledger.ofComponentStyle name u)) hvw
  | bundle address => exact .ok ⟨⟨rfl, htwin⟩, rfl⟩
  | side side =>
      exact .ok ⟨⟨rfl, htwin.map (f := fun e => { e with side := some side }) (fun _ => rfl)
        (fun _ => rfl) fun _ _ => rfl⟩, rfl⟩
  | stop f => exact .error f

theorem alike_steps
    (h : s.RendersAlikeFor kinds φ s') (htwin : Twin s s' c d) (hk : kinds c.variant.kind)
    {steps : List Step}
    (hsteps : steps.all (Step.isFamiliar c.variant.kind s.theme) = true) :
    (Making.steps s.theme c steps).toWork.Alike True
      (fun e l f m => Twin s s' e f ∧ l.mapStyles φ = m.mapStyles φ)
      (Making.steps s'.theme d steps).toWork := by
  induction steps generalizing c d with
  | nil => exact .ok ⟨htwin, rfl⟩
  | cons step steps ih =>
      obtain ⟨hstep, hrest⟩ := (Bool.and_eq_true _ _).mp hsteps
      have hrun := h.alike_run htwin hk hstep
      cases hfirst : step.run s.theme c with
      | error f =>
          rw [hfirst] at hrun
          generalize hsecond : step.run s'.theme d = y at hrun
          cases hrun with
          | error =>
              rw [Making.steps, hfirst, Making.steps, hsecond]
              exact .error f
          | failed hlax => exact (hlax trivial).elim
      | ok x =>
          obtain ⟨y, hsecond, ⟨hvariant, hnext⟩, hentered⟩ := hrun.exists_of_eq_ok hfirst
          rw [Making.steps_cons_of_ok hfirst, Making.steps_cons_of_ok hsecond]
          refine ResultsAlike.mono (ih hnext (hvariant ▸ hk) (by rw [hvariant]; exact hrest)) ?_
          rintro e f ⟨hlast, hledger⟩
          refine ⟨hlast, ?_⟩
          change (x.2.merge _).mapStyles φ = (y.2.merge _).mapStyles φ
          rw [Ledger.mapStyles_merge, Ledger.mapStyles_merge, hentered]
          exact congrArg _ hledger

end Setup.RendersAlikeFor

end ArticleExport
