import ArticleExport.Proofs.Article.FragmentTree
import ArticleExport.Proofs.Article.Twins
import ArticleExport.Proofs.Spec.Resolution

/-!
# Two ways to bring templates

Templates of its own a host may register as specs, or set in a theme.  A registered spec
keeps the built-in one from being registered; a template of the theme takes the place of the
built-in one when that is resolved.  Either way the same template is resolved, by values that
agree on every key but that of the templates themselves.
-/

namespace ArticleExport

/-- Templates by component and spec. -/
abbrev Templates := Table (Table Json)

namespace Templates

/-- The template for a spec of a component. -/
def find? (templates : Templates) (component spec : Text) : Option Json :=
  (Table.get? component templates).bind (Table.get? spec)

/-- The templates as the value of a theme. -/
def toJson (templates : Templates) : Json := .obj (templates.mapValues .obj)

/-- Templates of which none is null and none refers to the templates of the theme. -/
def Sound (templates : Templates) : Prop :=
  ∀ component ∈ templates, ∀ spec ∈ component.2,
    spec.2.isNull = false ∧ Theme.templatesKey ∉ Spec.tokens spec.2

instance (templates : Templates) : Decidable templates.Sound :=
  inferInstanceAs (Decidable (∀ component ∈ templates, ∀ spec ∈ component.2, _ ∧ _))

theorem Sound.of_find?_eq_some
    {templates : Templates} (h : templates.Sound) {component spec : Text} {template : Json}
    (hfind : templates.find? component spec = some template) :
    template.isNull = false ∧ Theme.templatesKey ∉ Spec.tokens template := by
  obtain ⟨bySpec, hbySpec, htemplate⟩ := Option.bind_eq_some_iff.mp hfind
  exact h _ (Table.mem_of_get?_eq_some hbySpec) _ (Table.mem_of_get?_eq_some htemplate)

end Templates

/-- A registry in which each of the templates is registered under its component and spec, and
nothing else. -/
def SpecRegistry.Holds (r : SpecRegistry) (templates : Templates) : Prop :=
  ∀ component spec,
    (r.find? component spec).map Spec.template = templates.find? component spec

/-- The theme with templates of its own. -/
def Theme.withTemplates (theme : Theme) (templates : Templates) : Theme :=
  { theme with own := Table.set templatesKey templates.toJson theme.own }

/-! ## Registries -/

namespace SpecRegistry

theorem holds_empty : empty.Holds [] := fun _ _ => rfl

/-- Registering a spec adds its template to those that are held. -/
theorem Holds.register {r : SpecRegistry} {templates : Templates} (h : r.Holds templates)
    (s : Spec) :
    (r.register s).Holds (Table.set s.component
      (Table.set s.name s.template ((Table.get? s.component templates).getD [])) templates) := by
  intro component spec
  rw [find?, specsFor, SpecRegistry.register, Table.get?_set, Templates.find?, Table.get?_set]
  split
  · rename_i hcomponent
    subst hcomponent
    rw [Option.getD_some, Option.bind_some, Table.get?_set, Table.get?_set]
    split
    · rfl
    · refine (h s.component spec).trans ?_
      rw [Templates.find?]
      cases Table.get? s.component templates with
      | none => rfl
      | some bySpec => rfl
  · exact h component spec

end SpecRegistry

/-! ## Themes -/

namespace Theme

variable {theme : Theme} {templates : Templates}

theorem value_withTemplates {key : Text} (h : key ≠ templatesKey) :
    (theme.withTemplates templates).value key = theme.value key := by
  rw [value, find?, withTemplates, Table.get?_set, if_neg h.symm, ← find?, ← value]

theorem value_templatesKey :
    (theme.withTemplates templates).value templatesKey = templates.toJson := by
  rw [value, find?, withTemplates, Table.get?_set, if_pos rfl]
  rfl

/-- The theme has exactly the templates that it was given. -/
theorem template?_withTemplates (h : templates.Sound) (component spec : Text) :
    (theme.withTemplates templates).template? component spec =
      .ok (templates.find? component spec) := by
  have hlookup : Table.get? component (templates.mapValues Json.obj) =
      (Table.get? component templates).map .obj :=
    Table.get?_mapValues _ _ _
  rw [template?, value_templatesKey, Templates.toJson]
  cases hempty : (Json.obj (templates.mapValues .obj)).isTruthy with
  | false =>
      have hnil : templates = [] := by
        cases templates with
        | nil => rfl
        | cons e t => cases hempty
      rw [hnil]
      rfl
  | true =>
      simp only [Bool.not_true, Bool.false_eq_true, if_false, hlookup]
      cases hbySpec : Table.get? component templates with
      | none => simp [Templates.find?, hbySpec]
      | some bySpec =>
          have hfind : templates.find? component spec = Table.get? spec bySpec := by
            rw [Templates.find?, hbySpec, Option.bind_some]
          simp only [Option.map_some, Option.getD_some, hfind]
          cases htemplate : Table.get? spec bySpec with
          | none => rfl
          | some template =>
              have hnull := (h.of_find?_eq_some (hfind.trans htemplate)).1
              simp [Option.filter, hnull]

end Theme

/-! ## Rendering -/

namespace Kind

/-- No built-in template refers to the templates of the theme. -/
theorem templatesKey_not_mem_tokens {k : Kind} {theme : Theme} {s : Spec}
    (hs : s ∈ k.specs theme) :
    Theme.templatesKey ∉ Spec.tokens s.template := by
  have hall : builtInSpecs.all
      (fun s => !(Spec.tokens s.template).contains Theme.templatesKey) = true := by
    decide +kernel
  simpa using List.all_eq_true.mp hall s (mem_builtInSpecs hs)

variable {k : Kind} {theme : Theme} {templates : Templates} {r : SpecRegistry} {spec : Text}

theorem specs_withTemplates (k : Kind) (theme : Theme) (templates : Templates) :
    k.specs (theme.withTemplates templates) = k.specs theme := by
  refine specs_congr ?_ k
  intro key hkey
  rw [Theme.value_withTemplates (ne_of_mem_of_not_mem hkey (by decide))]

theorem resolve_withTemplates {template : Json} (h : Theme.templatesKey ∉ Spec.tokens template)
    (values : Table Json) (theme : Theme) (templates : Templates) :
    Spec.resolve (Spec.source values (theme.withTemplates templates)) template =
      Spec.resolve (Spec.source values theme) template := by
  refine Spec.resolve_congr ?_
  intro key hkey
  rw [Spec.source, Spec.source, Theme.value_withTemplates (ne_of_mem_of_not_mem hkey h)]

/-- A spec that a kind knows renders alike, whether the templates are registered or the theme's. -/
theorem render_withTemplates
    (hheld : r.Holds templates) (hsound : templates.Sound) (htheme : theme.HasNoTemplates)
    (hknown : k.knows theme spec = true) (values : Table Json) :
    k.render theme r spec values = k.render (theme.withTemplates templates) .empty spec values := by
  obtain ⟨t, ht⟩ := Option.isSome_iff_exists.mp hknown
  obtain ⟨hmem, hname⟩ := mem_specs_of_get?_eq_some ht
  have hbuiltIn : Table.get? spec
      (SpecRegistry.entries (k.specs (theme.withTemplates templates))) = some t := by
    rw [specs_withTemplates]
    exact ht
  have heffective : t.effective (theme.withTemplates templates) =
      .ok ((templates.find? k.name spec).getD t.template) := by
    rw [Spec.effective, Theme.template?_withTemplates hsound, component_of_mem_specs hmem, hname]
    rfl
  have hown (s : Spec) : s.effective theme = .ok s.template := by
    rw [Spec.effective, Theme.template?_eq_none htheme]
    rfl
  rw [render_of_get?_specs hbuiltIn, Spec.substitute, heffective]
  -- A registered spec comes before the built-in one; without it both sides have the built-in one.
  cases hfound : r.find? k.name spec with
  | none =>
      have hfirst : (k.registry theme r).find? k.name spec = some t := by
        rw [find?_registry, hfound, Option.none_or]
        exact ht
      have hnone : templates.find? k.name spec = none := by
        rw [← hheld, hfound]
        rfl
      have hresolve := resolve_withTemplates (templatesKey_not_mem_tokens hmem)
        (Spec.unmarked values) theme templates
      rw [render_of_find?_eq_some hfirst, Spec.substitute, hown, hnone]
      exact congrArg (fun v => (Except.ok v).mapError Failure.fault) hresolve.symm
  | some s =>
      have hfirst : (k.registry theme r).find? k.name spec = some s := by
        rw [find?_registry, hfound, Option.some_or]
      have hsome : templates.find? k.name spec = some s.template := by
        rw [← hheld, hfound]
        rfl
      have hresolve := resolve_withTemplates (hsound.of_find?_eq_some hsome).2 (Spec.unmarked values) theme
        templates
      rw [render_of_find?_eq_some hfirst, Spec.substitute, hown, hsome]
      exact congrArg (fun v => (Except.ok v).mapError Failure.fault) hresolve.symm

end Kind

/-! ## Articles -/

theorem rendersAlike_withTemplates
    (settings : Settings) {theme : Theme} {templates : Templates} {r : SpecRegistry}
    (hheld : r.Holds templates) (hsound : templates.Sound) (htheme : theme.HasNoTemplates)
    (factory : Option Factory) :
    Setup.RendersAlike id ⟨settings, theme, r, factory⟩
      ⟨settings, theme.withTemplates templates, .empty, factory⟩ where
  settings := rfl
  factory := rfl
  value := by
    intro key hkey
    exact (Theme.value_withTemplates (ne_of_mem_of_not_mem hkey (by decide))).symm
  render := fun values hknown _ => Kind.render_withTemplates hheld hsound htheme hknown values
  style := by
    intro k spec values hknown
    refine ResultsAlike.of_eq (fun _ => rfl) ?_
    have hrender := Kind.render_withTemplates hheld hsound htheme hknown values
    exact congrArg (fun x => x.bind fun v => v.toMapping.mapError Failure.fault) hrender

/-- Templates that are registered as specs and templates that are set in the theme give the same
article, bundles and issues, or the same failure. -/
theorem Assembler.assemble_withTemplates
    (settings : Settings) (variants : List Variant) (templates : Templates)
    (hsound : templates.Sound) (r : SpecRegistry) (hheld : r.Holds templates)
    (themes : ThemeStore) (sections : List Key)
    (htheme : (themes.used sections).HasNoTemplates) (themes' : ThemeStore) (sections' : List Key)
    (htheme' : themes'.used sections' = (themes.used sections).withTemplates templates)
    (root : Node) (info : ArticleInfo) :
    (⟨settings, themes, variants, r⟩ : Assembler).assemble root sections info =
      (⟨settings, themes', variants, .empty⟩ : Assembler).assemble root sections' info := by
  have halike := rendersAlike_withTemplates settings hheld hsound htheme (some ⟨variants, true⟩)
  have hassembled := halike.assemble_map root info id (by
    intro l m cs layouts hledger
    rw [Ledger.mapStyles_id, Ledger.mapStyles_id] at hledger
    rw [hledger])
  rw [assemble, assemble, setup, setup, htheme']
  simpa using hassembled

/-- Body text and the in-article module are customized, the one in an aside too, and a template
is there for a component that there is not. -/
theorem Assembler.assemble_withTemplates_of_body_and_module :
    let settings := { Settings.default with asideClass := "box", inArticlePosition := 1 }
    let text : Json := .obj [("role", "body"), ("text", "#text#"), ("tone", "#aside_alignment#")]
    let module : Json := .obj [("role", "body"), ("tone", "#missing#"), ("text", "Ad")]
    let templates : Templates := [("body", [("json", text)]), ("video", [("json", .arr [])]),
      ("in_article", [("json", module)])]
    let specs := (((SpecRegistry.empty.register ⟨"body", "json", "Text", text⟩).register
      ⟨"video", "json", "Video", .arr []⟩).register ⟨"in_article", "json", "Ad", module⟩)
    let theme : Theme := ⟨"Blue", [("aside_alignment", "left")]⟩
    let root : Node := .root [.element "p" [] [.ofText "A"],
      .element "div" [("class", "box")] [.element "p" [] [.ofText "B"]]]
    ∃ result,
      (⟨settings, ⟨[("Blue", theme)], "Blue", []⟩, Variant.standard, specs⟩ :
        Assembler).assemble root [] .default = .ok result ∧
      (⟨settings, ⟨[("Blue", theme.withTemplates templates)], "Blue", []⟩, Variant.standard,
        .empty⟩ : Assembler).assemble root [] .default = .ok result ∧
      (allFragments result.article).map (fun f => (f.field? "text", f.field? "tone")) =
        [(some (.str "<p>A</p>"), some (.str "left")), (some (.str "Ad"), none), (none, none),
          (some (.str "<p>B</p>"), some (.str "left"))] := by
  intro settings text module templates specs theme root
  have hheld : specs.Holds templates :=
    ((SpecRegistry.holds_empty.register _).register _).register _
  have hsound : templates.Sound := by decide +kernel
  have hsame := assemble_withTemplates settings Variant.standard templates hsound specs hheld
    ⟨[("Blue", theme)], "Blue", []⟩ [] rfl
    ⟨[("Blue", theme.withTemplates templates)], "Blue", []⟩ [] rfl root .default
  have hholds : ((⟨settings, ⟨[("Blue", theme)], "Blue", []⟩, Variant.standard, specs⟩ :
      Assembler).assemble root [] .default).toOption.any (fun result =>
        (allFragments result.article).map (fun f => (f.field? "text", f.field? "tone")) ==
          [(some (.str "<p>A</p>"), some (.str "left")), (some (.str "Ad"), none), (none, none),
            (some (.str "<p>B</p>"), some (.str "left"))]) = true := by
    decide +kernel
  obtain ⟨result, hresult, hshown⟩ := exists_of_holds hholds
  exact ⟨result, hresult, hsame ▸ hresult, beq_iff_eq.mp hshown⟩

end ArticleExport
