import ArticleExport.Proofs.Article.Light
import ArticleExport.Proofs.Article.Twins

/-!
# Dark mode adds to the light rendering and changes nothing in it

The values for dark mode stand in variants, and variants stand under `conditional`.  Whether
a built-in spec has a variant depends on these values, what it says without variants does
not.  So two themes that differ in their values for dark mode only give the same article but
for the entries under `conditional`.
-/

namespace ArticleExport

/-- What an export yields, without the entries of a name in the article. -/
def ExportResult.without (name : Text) (r : ExportResult) : ExportResult :=
  { r with article := Json.withoutEntries name r.article }

namespace Kind

/-! ## Built-in templates without variants -/

/-- The templates of a kind by the names of its specs, without their variants. -/
def lightTemplates (k : Kind) (theme : Theme) : Table Json :=
  (SpecRegistry.entries (k.specs theme)).mapValues fun s =>
    s.template.without Spec.conditionalKey

/-- Themes have no say in what built-in templates are without their variants. -/
theorem lightTemplates_eq (k : Kind) (theme theme' : Theme) :
    k.lightTemplates theme = k.lightTemplates theme' := by
  have hsample : ∀ background border,
      k.lightTemplates (sample background border) = k.lightTemplates (sample false false) := by
    cases k with
    | aside => decide +kernel
    | quote => decide +kernel
    | _ => exact fun _ _ => rfl
  have hlight (t : Theme) : k.lightTemplates t = k.lightTemplates (sample false false) := by
    obtain ⟨background, border, hspecs⟩ := exists_specs_eq_sample k t
    rw [lightTemplates, hspecs]
    exact hsample background border
  rw [hlight, hlight theme']

/-- The spec of a name under another theme is the same but for its variants. -/
theorem exists_light_spec
    {k : Kind} {theme : Theme} {spec : Text} {s : Spec}
    (h : Table.get? spec (SpecRegistry.entries (k.specs theme)) = some s) (theme' : Theme) :
    ∃ t, Table.get? spec (SpecRegistry.entries (k.specs theme')) = some t ∧
      s.template.without Spec.conditionalKey = t.template.without Spec.conditionalKey := by
  have hlight : Table.get? spec (k.lightTemplates theme') =
      some (s.template.without Spec.conditionalKey) := by
    rw [lightTemplates_eq k theme' theme, lightTemplates, Table.get?_mapValues, h]
    rfl
  rw [lightTemplates, Table.get?_mapValues] at hlight
  obtain ⟨t, ht, htemplate⟩ := Option.map_eq_some_iff.mp hlight
  exact ⟨t, ht, htemplate.symm⟩

/-- Only templates of styles have variants, and values for dark mode stand in variants only. -/
theorem light_of_mem_specs {k : Kind} {theme : Theme} {s : Spec} (hs : s ∈ k.specs theme) :
    (s.name ∈ styleSpecs ∨ Spec.conditionalKey ∉ s.template.names) ∧
      ∀ key ∈ Spec.tokens (s.template.without Spec.conditionalKey), Theme.isDark key = false := by
  have hall : builtInSpecs.all (fun s =>
      (styleSpecs.contains s.name || !s.template.names.contains Spec.conditionalKey) &&
        (Spec.tokens (s.template.without Spec.conditionalKey)).all (!Theme.isDark ·)) = true := by
    decide +kernel
  simpa using List.all_eq_true.mp hall s (mem_builtInSpecs hs)

end Kind

/-! ## Rendering under two themes -/

section TwoThemes

variable {theme theme' : Theme}

/-- Two themes that differ in their values for dark mode only. -/
def Theme.SameLight (theme theme' : Theme) : Prop :=
  ∀ key, Theme.isDark key = false → theme.value key = theme'.value key

theorem Theme.SameLight.hasNoTemplates
    (h : theme.SameLight theme') (htheme : theme.HasNoTemplates) :
    theme'.HasNoTemplates := by
  rw [HasNoTemplates, ← h _ (by decide)]
  exact htheme

theorem Theme.SameLight.agreeOn
    (h : theme.SameLight theme') (values : Table Json) {keys : List Text}
    (hkeys : ∀ key ∈ keys, isDark key = false) :
    Spec.AgreeOn (Spec.source values theme) (Spec.source values theme') keys := by
  intro key hkey
  rw [Spec.source, Spec.source, h key (hkeys key hkey)]

theorem Kind.exists_render_light
    (h : theme.SameLight theme') (htheme : theme.HasNoTemplates) {k : Kind} {spec : Text}
    (hknown : k.knows theme spec = true) (values : Table Json) :
    ∃ fields fields', k.render theme .empty spec values = .ok (.obj fields) ∧
      k.render theme' .empty spec values = .ok (.obj fields') ∧
      (Json.obj fields).without Spec.conditionalKey =
        (Json.obj fields').without Spec.conditionalKey ∧
      (spec ∉ styleSpecs → fields = fields') := by
  obtain ⟨s, hs⟩ := Option.isSome_iff_exists.mp hknown
  obtain ⟨t, ht, htemplate⟩ := exists_light_spec hs theme'
  obtain ⟨hmem, hname⟩ := mem_specs_of_get?_eq_some hs
  obtain ⟨hmem', hname'⟩ := mem_specs_of_get?_eq_some ht
  obtain ⟨hplain, hlight⟩ := light_of_mem_specs hmem
  obtain ⟨hplain', -⟩ := light_of_mem_specs hmem'
  have hcongr := Spec.resolve_congr (h.agreeOn (Spec.unmarked values) hlight)
  have hrender := render_builtIn htheme hs values
  have hrender' := render_builtIn (h.hasNoTemplates htheme) ht values
  have hwithout : (Spec.resolve (Spec.source (Spec.unmarked values) theme) s.template).without
        Spec.conditionalKey =
      (Spec.resolve (Spec.source (Spec.unmarked values) theme') t.template).without
        Spec.conditionalKey := by
    rw [Spec.without_resolve, hcongr, htemplate, ← Spec.without_resolve]
  have hsame (hspec : spec ∉ styleSpecs) :
      Spec.resolve (Spec.source (Spec.unmarked values) theme) s.template =
        Spec.resolve (Spec.source (Spec.unmarked values) theme') t.template := by
    have hs' := Json.without_of_not_mem_names (hplain.resolve_left (hname ▸ hspec))
    have ht' := Json.without_of_not_mem_names (hplain'.resolve_left (hname' ▸ hspec))
    rw [hs', ht'] at htemplate
    rw [hs', htemplate] at hcongr
    rw [htemplate, hcongr]
  obtain ⟨entries, hentries⟩ := template_of_mem_specs hmem
  obtain ⟨entries', hentries'⟩ := template_of_mem_specs hmem'
  obtain ⟨fields, hfields⟩ := resolve_obj (Spec.source (Spec.unmarked values) theme) entries
  obtain ⟨fields', hfields'⟩ := resolve_obj (Spec.source (Spec.unmarked values) theme') entries'
  rw [hentries, hentries', hfields, hfields'] at hwithout hsame
  rw [hrender, hrender', hentries, hentries', hfields, hfields']
  exact ⟨fields, fields', rfl, rfl, hwithout, fun hspec => Json.obj.inj (hsame hspec)⟩

theorem rendersAlike_of_sameLight
    (settings : Settings) (h : theme.SameLight theme') (htheme : theme.HasNoTemplates)
    (factory : Option Factory) :
    Setup.RendersAlike (Json.without Spec.conditionalKey) ⟨settings, theme, .empty, factory⟩
      ⟨settings, theme', .empty, factory⟩ where
  settings := rfl
  factory := rfl
  value := by
    intro key hkey
    have hlight : Theme.structuralKeys.all (!Theme.isDark ·) = true := by decide +kernel
    exact h key (by simpa using List.all_eq_true.mp hlight key hkey)
  render := by
    intro k spec values hknown hspec
    obtain ⟨fields, fields', hrender, hrender', -, hsame⟩ :=
      Kind.exists_render_light h htheme hknown values
    rw [hrender, hrender', hsame hspec]
  style := by
    intro k spec values hknown
    obtain ⟨fields, fields', hrender, hrender', hlight, -⟩ :=
      Kind.exists_render_light h htheme hknown values
    have hmapping (entries : Table Json) :
        (Json.obj entries).toMapping.mapError Failure.fault = .ok (.obj entries) :=
      congrArg (Except.mapError Failure.fault) (Json.toMapping_obj entries)
    rw [Kind.renderMapping, Kind.renderMapping, hrender, hrender']
    change ResultsAlike True _ ((Json.obj fields).toMapping.mapError Failure.fault)
      ((Json.obj fields').toMapping.mapError Failure.fault)
    rw [hmapping, hmapping]
    exact .ok hlight

theorem without_article {l m : Ledger}
    (h : l.mapStyles (Json.without Spec.conditionalKey) =
      m.mapStyles (Json.without Spec.conditionalKey))
    (s : Setup) (info : ArticleInfo) (cs : List Component) (layouts : Table Json) :
    (⟨s.article info l cs layouts, l.bundles, l.issues⟩ : ExportResult).without
        Spec.conditionalKey =
      (⟨s.article info m cs layouts, m.bundles, m.issues⟩ : ExportResult).without
        Spec.conditionalKey := by
  obtain ⟨htext, -, hcomponent, hbundles, hissues⟩ := Ledger.mk.inj h
  have hbundles : l.bundles = m.bundles := hbundles
  have hissues : l.issues = m.issues := hissues
  have hstyles {s t : Table Json}
      (hst : s.mapValues (Json.without Spec.conditionalKey) =
        t.mapValues (Json.without Spec.conditionalKey)) :
      (Json.obj s).without Spec.conditionalKey = (Json.obj t).without Spec.conditionalKey := by
    rw [Json.without, Json.without, Json.withoutEntries_eq_filter, Json.withoutEntries_eq_filter]
    exact congrArg (fun u : Table Json => Json.obj (u.filter _)) hst
  have harticle : Json.withoutEntries Spec.conditionalKey (s.article info l cs layouts) =
      Json.withoutEntries Spec.conditionalKey (s.article info m cs layouts) := by
    rw [Json.withoutEntries_eq_filter, Json.withoutEntries_eq_filter]
    simp only [Setup.article, List.map_cons, hstyles htext, hstyles hcomponent]
  simp only [ExportResult.without, harticle, hbundles, hissues]

end TwoThemes

/-! ## Articles -/

/-- Themes that set the same but for values for dark mode differ in these only. -/
theorem Theme.SameLight.of_own {theme theme' : Theme}
    (h : theme.own.filter (fun e => !isDark e.1) = theme'.own.filter fun e => !isDark e.1) :
    theme.SameLight theme' := by
  intro key hkey
  have hown (t : Theme) :
      Table.get? key t.own = Table.get? key (t.own.filter fun e => !isDark e.1) :=
    (Table.get?_filter (fun k => !isDark k) (by rw [hkey]; rfl) t.own).symm
  rw [value, value, find?, find?, hown, hown theme', h]

/-- A theme that sets no values for dark mode has none, and brings the variants that it sets. -/
theorem Theme.IsLight.of_own {theme : Theme}
    (hdark : ∀ e ∈ theme.own, isDark e.1 = true → e.2 = .null ∨ e.2 = .str [])
    (hvalues : ∀ e ∈ theme.own, e.2.IsLight) :
    theme.IsLight := by
  have hdefaults : defaults.all (fun e => (!isDark e.1 || e.2 == .str []) &&
      !e.2.names.contains Spec.conditionalKey) = true := by
    decide +kernel
  have hdefault (key : Text) : (isDark key = true →
      (Table.get? key defaults).getD .null = .null ∨
        (Table.get? key defaults).getD .null = .str []) ∧
      ((Table.get? key defaults).getD .null).IsLight := by
    cases hget : Table.get? key defaults with
    | none => exact ⟨fun _ => .inl rfl, nofun⟩
    | some v =>
        have hentry := List.all_eq_true.mp hdefaults _ (Table.mem_of_get?_eq_some hget)
        obtain ⟨hempty, hlight⟩ := (Bool.and_eq_true _ _).mp hentry
        refine ⟨?_, by simpa [Json.IsLight] using hlight⟩
        intro hkey
        right
        simpa [hkey] using hempty
  have hvalue (key : Text) : theme.value key = (Table.get? key defaults).getD .null ∨
      ∃ v, (key, v) ∈ theme.own ∧ theme.value key = v := by
    rw [value, find?]
    cases hget : Table.get? key theme.own with
    | none => exact .inl rfl
    | some v =>
        dsimp only
        split
        · exact .inl rfl
        · exact .inr ⟨v, Table.mem_of_get?_eq_some hget, rfl⟩
  constructor
  · intro key hkey
    rcases hvalue key with heq | ⟨v, hv, heq⟩
    · rw [heq]
      exact (hdefault key).1 hkey
    · rw [heq]
      exact hdark _ hv hkey
  · intro key
    rcases hvalue key with heq | ⟨v, hv, heq⟩
    · rw [heq]
      exact (hdefault key).2
    · rw [heq]
      exact hvalues _ hv

/-- Under two themes that differ in their values for dark mode only, content gives the same article,
bundles and issues but for the variants, or the same failure.  If the first theme has no values for
dark mode, its article has no variants but what the information brings. -/
theorem Assembler.assemble_of_sameLight
    (settings : Settings) (themes themes' : ThemeStore) (sections sections' : List Key)
    (htheme : (themes.used sections).HasNoTemplates)
    (hsame : (themes.used sections).SameLight (themes'.used sections'))
    (root : Node) (info : ArticleInfo) :
    let assembled :=
      (⟨settings, themes, Variant.standard, .empty⟩ : Assembler).assemble root sections info
    let assembled' :=
      (⟨settings, themes', Variant.standard, .empty⟩ : Assembler).assemble root sections' info
    assembled.map (ExportResult.without Spec.conditionalKey) =
        assembled'.map (ExportResult.without Spec.conditionalKey) ∧
      ((themes.used sections).IsLight → ∀ r, assembled = .ok r →
        (Table.IsLight r.article ↔
          ∀ v ∈ [info.identifier, info.title, info.language], v.IsLight)) := by
  intro assembled assembled'
  refine ⟨?_, ?_⟩
  · have halike := rendersAlike_of_sameLight settings hsame htheme (some .standard)
    exact halike.assemble_map root info (ExportResult.without Spec.conditionalKey)
      fun cs layouts hledger => without_article hledger _ info cs layouts
  · intro hlight r hr
    exact Setup.isLight_of_assemble htheme hlight hr

/-- An aside in a theme with values for dark mode and in one without. -/
theorem Assembler.assemble_of_sameLight_of_dark_aside :
    let settings := { Settings.default with asideClass := "box" }
    let light : ThemeStore := ⟨[("Light", ⟨"Light", [("body_size", .int 20)]⟩)], "Light", []⟩
    let dark : ThemeStore := ⟨[("Dark", ⟨"Dark", [("aside_background_color_dark", "#000000"),
      ("body_size", .int 20), ("aside_border_color_dark", "#ffffff")]⟩)], "Dark", []⟩
    let root : Node := .root [.element "div" [("class", "box")] [.element "hr" [] []]]
    ∃ r r',
      (⟨settings, light, Variant.standard, .empty⟩ : Assembler).assemble root [] .default = .ok r ∧
      (⟨settings, dark, Variant.standard, .empty⟩ : Assembler).assemble root [] .default = .ok r' ∧
      r.without Spec.conditionalKey = r'.without Spec.conditionalKey ∧
      Table.IsLight r.article ∧ ¬Table.IsLight r'.article := by
  intro settings light dark root
  have hsame : (light.used []).SameLight (dark.used []) := .of_own (by decide +kernel)
  have hlight : (light.used []).IsLight :=
    .of_own (by decide +kernel) (List.forall_mem_singleton.mpr nofun)
  obtain ⟨hboth, hnone⟩ := assemble_of_sameLight settings light dark [] [] rfl hsame root .default
  have hholds : ((⟨settings, dark, Variant.standard, .empty⟩ : Assembler).assemble root []
      .default).toOption.any (fun r =>
        (Json.namesOfEntries r.article).contains Spec.conditionalKey) = true := by
    decide +kernel
  obtain ⟨r', hr', hvariants⟩ := exists_of_holds hholds
  rw [hr'] at hboth
  cases hr : (⟨settings, light, Variant.standard, .empty⟩ : Assembler).assemble root [] .default with
  | error f =>
      rw [hr] at hboth
      cases hboth
  | ok r =>
      rw [hr] at hboth
      refine ⟨r, r', rfl, hr', Except.ok.inj hboth, (hnone hlight r hr).mpr ?_, ?_⟩
      · exact List.forall_mem_cons.mpr
          ⟨nofun, List.forall_mem_cons.mpr ⟨nofun, List.forall_mem_singleton.mpr nofun⟩⟩
      · intro hno
        exact hno (by simpa using hvariants)

end ArticleExport
