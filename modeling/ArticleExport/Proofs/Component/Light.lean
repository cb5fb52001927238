import ArticleExport.Proofs.Component.Familiar
import ArticleExport.Proofs.Spec.Resolution

/-!
# Components without variants

Where a theme has no values for dark mode, every variant of a built-in template comes out
empty.  So neither the fragments that components are nor what is entered for them has an
entry under `conditional`, at any depth, unless a value of the theme brings one.
-/

namespace ArticleExport

/-! ## Values, tables and ledgers without variants -/

/-- Whether there are no variants in a value, at any depth. -/
def Json.IsLight (v : Json) : Prop := Spec.conditionalKey ∉ v.names

/-- Whether a table has no variants, and there are none in its values. -/
def Table.IsLight (t : Table Json) : Prop := Spec.conditionalKey ∉ Json.namesOfEntries t

namespace Table.IsLight

variable {s t : Table Json}

theorem iff_forall : t.IsLight ↔ ∀ e ∈ t, e.1 ≠ Spec.conditionalKey ∧ e.2.IsLight :=
  Json.not_mem_namesOfEntries

theorem nil : Table.IsLight [] := List.not_mem_nil

theorem iff_keys : t.IsLight ↔ Spec.conditionalKey ∉ t.keys ∧ ∀ v ∈ t.values, v.IsLight := by
  rw [iff_forall, Table.keys, Table.values, List.forall_mem_map]
  constructor
  · intro h
    refine ⟨?_, fun e he => (h e he).2⟩
    intro hmem
    obtain ⟨e, he, hname⟩ := List.mem_map.mp hmem
    exact (h e he).1 hname
  · rintro ⟨hkeys, hvalues⟩ e he
    refine ⟨?_, hvalues e he⟩
    intro hname
    exact hkeys (List.mem_map.mpr ⟨e, he, hname⟩)

theorem singleton {name : Text} (hname : name ≠ Spec.conditionalKey) {value : Json}
    (hvalue : value.IsLight) :
    Table.IsLight [(name, value)] :=
  iff_forall.mpr (List.forall_mem_singleton.mpr ⟨hname, hvalue⟩)

theorem set (h : t.IsLight) {name : Text} (hname : name ≠ Spec.conditionalKey) {value : Json}
    (hvalue : value.IsLight) :
    Table.IsLight (Table.set name value t) := by
  rw [iff_forall] at h ⊢
  intro e he
  rcases Table.mem_set he with rfl | he
  · exact ⟨hname, hvalue⟩
  · exact h e he

theorem setIfAbsent (h : t.IsLight) {name : Text} (hname : name ≠ Spec.conditionalKey)
    {value : Json} (hvalue : value.IsLight) :
    Table.IsLight (Table.setIfAbsent name value t) := by
  rw [Table.setIfAbsent]
  split
  · exact h
  · rw [iff_forall] at h ⊢
    exact List.forall_mem_append.mpr ⟨h, List.forall_mem_singleton.mpr ⟨hname, hvalue⟩⟩

theorem merge (hs : s.IsLight) (ht : t.IsLight) : Table.IsLight (s.merge t) := by
  induction t generalizing s with
  | nil => exact hs
  | cons e t ih =>
      obtain ⟨hfirst, hrest⟩ := List.forall_mem_cons.mp (iff_forall.mp ht)
      exact ih (hs.setIfAbsent hfirst.1 hfirst.2) (iff_forall.mpr hrest)

theorem get?_getD (h : t.IsLight) (name : Text) : ((Table.get? name t).getD .null).IsLight := by
  cases hget : Table.get? name t with
  | none => nofun
  | some v => exact (iff_forall.mp h _ (Table.mem_of_get?_eq_some hget)).2

end Table.IsLight

theorem Json.isLight_str (t : Text) : (Json.str t).IsLight := List.not_mem_nil

theorem Json.isLight_arr {items : List Json} (h : ∀ v ∈ items, v.IsLight) :
    (Json.arr items).IsLight := by
  intro hmem
  obtain ⟨v, hv, hname⟩ := Json.mem_namesOfItems.mp hmem
  exact h v hv hname

/-- Whether there are no variants in what a ledger has entered. -/
structure Ledger.IsLight (l : Ledger) : Prop where
  textStyles : l.textStyles.IsLight
  layouts : l.layouts.IsLight
  componentStyles : l.componentStyles.IsLight

theorem Ledger.IsLight.empty : Ledger.empty.IsLight := ⟨nofun, nofun, nofun⟩

theorem Ledger.IsLight.merge {l m : Ledger} (hl : l.IsLight) (hm : m.IsLight) :
    (l.merge m).IsLight :=
  ⟨hl.textStyles.merge hm.textStyles, hl.layouts.merge hm.layouts,
    hl.componentStyles.merge hm.componentStyles⟩

/-! ## Themes without values for dark mode -/

/-- Whether a key is that of a value for dark mode. -/
def Theme.isDark (key : Text) : Bool := ("_dark" : Text).isSuffixOf key

/-- Whether every value for dark mode is missing or empty, and no value brings variants of its own. -/
structure Theme.IsLight (theme : Theme) : Prop where
  dark : ∀ key, isDark key = true → theme.value key = .null ∨ theme.value key = .str []
  values : ∀ key, (theme.value key).IsLight

namespace Spec

/-- Whether a variant consists of values for dark mode under conditions. -/
def isDarkVariant : Json → Bool
  | .obj fields => fields.all fun e =>
    e.1 == conditionsKey || (tokenKey? e.2).any Theme.isDark
  | _ => true

/-- Whether a template is an object that has variants at its top only, and only of values for dark
mode. -/
def hasDarkVariants : Json → Bool
  | .obj entries => entries.all fun
    | (k, .arr items) =>
      if k = conditionalKey then items.all isDarkVariant
      else !(Json.namesOfItems items).contains conditionalKey
    | (k, v) => k != conditionalKey && !v.names.contains conditionalKey
  | _ => false

/-- Whether values for placeholders bring no variants and leave the values for dark mode alone. -/
def LightValues (values : Table Json) : Prop :=
  ∀ e ∈ unmarked values, Theme.isDark e.1 = false ∧ e.2.IsLight

theorem lightValues_nil : LightValues [] := nofun

/-- Values count under their keys without marks. -/
theorem lightValues_of_forall {values : Table Json}
    (hkeys : values.all (fun e => !Theme.isDark (stripMarks e.1)) = true)
    (h : ∀ e ∈ values, e.2.IsLight) :
    LightValues values := by
  intro e he
  obtain ⟨d, hd, rfl⟩ := List.mem_map.mp (Table.mem_of_mem_ofEntries he)
  exact ⟨by simpa using List.all_eq_true.mp hkeys d hd, h d hd⟩

section Values

variable {theme : Theme} {values : Table Json}

theorem isLight_source (htheme : theme.IsLight) (hvalues : LightValues values) (key : Text) :
    (source (unmarked values) theme key).IsLight := by
  rw [source]
  cases hget : Table.get? key (unmarked values) with
  | none => exact htheme.values key
  | some v => exact (hvalues _ (Table.mem_of_get?_eq_some hget)).2

theorem source_of_isDark (htheme : theme.IsLight) (hvalues : LightValues values) {key : Text}
    (hkey : Theme.isDark key = true) :
    source (unmarked values) theme key = .null ∨ source (unmarked values) theme key = .str [] := by
  rw [source]
  cases hget : Table.get? key (unmarked values) with
  | none => exact htheme.dark key hkey
  | some v =>
      have hlight := (hvalues _ (Table.mem_of_get?_eq_some hget)).1
      rw [hkey] at hlight
      cases hlight

/-- A variant of values for dark mode comes out empty. -/
theorem isEmpty_of_isDarkVariant
    (htheme : theme.IsLight) (hvalues : LightValues values) {fields : Table Json}
    (h : isDarkVariant (.obj fields) = true) {e : Text × Json} (he : e ∈ fields) :
    e.1 = conditionsKey ∨
      (resolve (source (unmarked values) theme) e.2).prune.isEmpty = true := by
  rcases (Bool.or_eq_true _ _).mp (List.all_eq_true.mp h e he) with hconditions | hdark
  · exact .inl (eq_of_beq hconditions)
  · obtain ⟨k, v⟩ := e
    cases v with
    | str t =>
        right
        cases ht : token? t with
        | none =>
            rw [tokenKey?, ht] at hdark
            cases hdark
        | some key =>
            have hresolved : resolve (source (unmarked values) theme) (.str t) =
                source (unmarked values) theme key := by
              rw [resolve, ht]
            rw [tokenKey?, ht] at hdark
            rw [hresolved]
            rcases source_of_isDark htheme hvalues hdark with hnull | hempty
            · rw [hnull]
              rfl
            · rw [hempty]
              rfl
    | _ => cases hdark

/-- A template whose variants are for dark mode resolves to something without variants. -/
theorem isLight_resolve
    (htheme : theme.IsLight) (hvalues : LightValues values) {template : Json}
    (h : hasDarkVariants template = true) :
    (resolve (source (unmarked values) theme) template).IsLight := by
  cases template with
  | obj entries =>
      have hentries := List.all_eq_true.mp h
      -- Every variant comes out empty, and nothing else of the object brings variants.
      rw [resolve_obj_of_forall]
      · refine not_mem_namesOfEntries_resolveBase ?_ (isLight_source htheme hvalues)
        rintro ⟨k, v⟩ he
        have hentry := hentries _ he
        cases v with
        | arr items =>
            by_cases hk : k = conditionalKey
            · exact .inl ⟨hk, rfl⟩
            · simp only [if_neg hk] at hentry
              exact .inr ⟨hk, by simpa [Json.names] using hentry⟩
        | _ => exact .inr (by simpa using hentry)
      · intro variants hmem fields hfields e he
        have hvariants : variants.all isDarkVariant = true := hentries _ hmem
        exact isEmpty_of_isDarkVariant htheme hvalues
          (List.all_eq_true.mp hvariants _ hfields) he
  | _ => cases h

end Values

end Spec

namespace Kind

variable {theme : Theme} {values : Table Json}

/-- Under a theme without values for dark mode, variants are for dark mode at most. -/
theorem hasDarkVariants_of_mem_specs (htheme : theme.IsLight) {k : Kind} {s : Spec}
    (hs : s ∈ k.specs theme) :
    Spec.hasDarkVariants s.template = true := by
  have hall (j : Kind) : (j.specs (sample false false)).all
      (fun s => Spec.hasDarkVariants s.template) = true := by
    cases j <;> decide +kernel
  have hswitch : ∀ key ∈ darkSwitches,
      (theme.value key).isTruthy = ((sample false false).value key).isTruthy := by
    have hdark : darkSwitches.all (fun key =>
        Theme.isDark key && !((sample false false).value key).isTruthy) = true := by
      decide +kernel
    intro key hkey
    obtain ⟨hkeyDark, hfalsy⟩ := (Bool.and_eq_true _ _).mp (List.all_eq_true.mp hdark key hkey)
    have hsample : ((sample false false).value key).isTruthy = false := by
      simpa using hfalsy
    rw [hsample]
    rcases htheme.dark key hkeyDark with hnull | hempty
    · rw [hnull]
      rfl
    · rw [hempty]
      rfl
  rw [specs_congr hswitch] at hs
  exact List.all_eq_true.mp (hall k) s hs

theorem isLight_resolved (htheme : theme.IsLight) (hvalues : Spec.LightValues values) (k : Kind)
    (spec : Text) :
    (k.resolved theme spec values).IsLight := by
  rw [resolved]
  cases hs : Table.get? spec (SpecRegistry.entries (k.specs theme)) with
  | none => exact .nil
  | some s =>
      have hmem := (mem_specs_of_get?_eq_some hs).1
      have hlight := Spec.isLight_resolve htheme hvalues (hasDarkVariants_of_mem_specs htheme hmem)
      dsimp only
      cases hresolved : Spec.resolve (Spec.source (Spec.unmarked values) theme) s.template with
      | obj fields =>
          rw [hresolved] at hlight
          exact hlight
      | _ => exact .nil

end Kind

/-! ## Steps that bring no variants -/

/-- Whether a step gives no variants to templates, and names nothing like a list of variants. -/
def Step.IsLight : Step → Prop
  | json _ values => Spec.LightValues values
  | textStyle name _ values property | layout name _ values property
  | wideLayout name _ values property | style name _ values property =>
    name ≠ Spec.conditionalKey ∧ property ≠ Spec.conditionalKey ∧ Spec.LightValues values
  | bundle _ | side _ | stop _ => True

section Steps

variable {theme : Theme} {c : Component}

theorem Component.isLight_set (hc : c.json.IsLight) {property : Text}
    (hproperty : property ≠ Spec.conditionalKey) (name : Text) :
    (c.set property (.str name)).json.IsLight :=
  hc.set hproperty (show (Json.str name).IsLight from nofun)

theorem Step.isLight_refer (hc : c.json.IsLight) {property : Text}
    (hproperty : property ≠ Spec.conditionalKey) (name : Text) :
    (refer c property name).json.IsLight := by
  rw [refer]
  split
  · exact hc
  · exact Component.isLight_set hc hproperty name

theorem Step.isLight_spanning (htheme : theme.IsLight) {layout : Table Json}
    (hlayout : layout.IsLight) :
    (spanning theme layout).IsLight :=
  (hlayout.set (by decide) (show (Json.int 0).IsLight from nofun)).set (by decide)
    (htheme.values _)

theorem Step.isLight_outcome (htheme : theme.IsLight) (hc : c.json.IsLight) {step : Step}
    (hstep : step.IsLight) :
    (step.outcome theme c).1.json.IsLight ∧ (step.outcome theme c).2.IsLight := by
  have hresolved {values : Table Json} (hvalues : Spec.LightValues values) (spec : Text) :
      (c.variant.kind.resolved theme spec values).IsLight :=
    Kind.isLight_resolved htheme hvalues _ spec
  cases step with
  | json spec values => exact ⟨hresolved hstep spec, .empty⟩
  | textStyle name spec values property =>
      obtain ⟨hname, hproperty, hvalues⟩ := hstep
      exact ⟨Component.isLight_set hc hproperty name, .singleton hname (hresolved hvalues spec),
        nofun, nofun⟩
  | layout name spec values property =>
      obtain ⟨hname, hproperty, hvalues⟩ := hstep
      exact ⟨isLight_refer hc hproperty name, nofun, .singleton hname (hresolved hvalues spec),
        nofun⟩
  | wideLayout name spec values property =>
      obtain ⟨hname, hproperty, hvalues⟩ := hstep
      exact ⟨isLight_refer hc hproperty name, nofun,
        .singleton hname (isLight_spanning htheme (hresolved hvalues spec)), nofun⟩
  | style name spec values property =>
      obtain ⟨hname, hproperty, hvalues⟩ := hstep
      exact ⟨Component.isLight_set hc hproperty name, nofun, nofun,
        .singleton hname (hresolved hvalues spec)⟩
  | bundle address => exact ⟨hc, nofun, nofun, nofun⟩
  | side s => exact ⟨hc, .empty⟩
  | stop f => exact ⟨hc, .empty⟩

theorem Step.isLight_outcomes (htheme : theme.IsLight) {steps : List Step} (hc : c.json.IsLight)
    (hsteps : ∀ step ∈ steps, step.IsLight) :
    (outcomes theme c steps).1.json.IsLight ∧ (outcomes theme c steps).2.IsLight := by
  induction steps generalizing c with
  | nil => exact ⟨hc, .empty⟩
  | cons step steps ih =>
      obtain ⟨hstep, hrest⟩ := List.forall_mem_cons.mp hsteps
      obtain ⟨hfirst, hentered⟩ := isLight_outcome htheme hc hstep
      obtain ⟨hlast, hmore⟩ := ih hfirst hrest
      exact ⟨hlast, hentered.merge hmore⟩

end Steps

/-! ## What components are made of -/

namespace Component

variable {theme : Theme}

theorem isLight_borderStep
    {withBorder without : Text} (hwith : withBorder ≠ Spec.conditionalKey)
    (hwithout : without ≠ Spec.conditionalKey) (key withSpec withoutSpec : Text) :
    (borderStep theme key withBorder withSpec without withoutSpec).IsLight := by
  rw [borderStep]
  split
  · exact ⟨hwithout, by decide, Spec.lightValues_nil⟩
  · exact ⟨hwith, by decide, Spec.lightValues_nil⟩

theorem isLight_text (spec text : Text) : (Step.json spec [("text", .str text)]).IsLight :=
  Spec.lightValues_of_forall rfl (List.forall_mem_singleton.mpr nofun)

theorem isLight_asideSteps {parts : List Json} (hparts : ∀ f ∈ parts, f.IsLight) :
    ∀ step ∈ asideSteps theme parts, step.IsLight := by
  have hvalues : Spec.LightValues [("components", .arr parts)] :=
    Spec.lightValues_of_forall rfl (List.forall_mem_singleton.mpr (Json.isLight_arr hparts))
  have hlayout (side : Side) : (("aside-layout-" : Text) ++ side.name) ≠ Spec.conditionalKey := by
    cases side <;> decide
  rw [asideSteps]
  simp only [List.forall_mem_cons]
  exact ⟨hvalues, isLight_borderStep (by decide) (by decide) _ _ _,
    ⟨hlayout _, by decide, Spec.lightValues_nil⟩, trivial, List.forall_mem_nil _⟩

theorem isLight_captionOf (n : Node) : (captionOf n).IsLight := by
  rw [captionOf]
  split
  · split
    · split
      · nofun
      · nofun
    · nofun
  · nofun

theorem isLight_imageSteps (settings : Settings) (n : Node) :
    ∀ step ∈ imageSteps settings n, step.IsLight := by
  have hphoto (address : Text) :
      (Step.json "json" [("url", .str address), ("caption", captionOf n)]).IsLight :=
    Spec.lightValues_of_forall rfl
      (List.forall_mem_cons.mpr ⟨nofun, List.forall_mem_singleton.mpr (isLight_captionOf n)⟩)
  have hlayout : (if settings.fullBleedImages then
      Step.wideLayout "full-bleed-image" "full-bleed-image" [] "layout"
      else Step.layout "non-anchored-image" "non-anchored-image" [] "layout").IsLight := by
    split
    · exact ⟨by decide, by decide, nofun⟩
    · exact ⟨by decide, by decide, nofun⟩
  rw [imageSteps]
  dsimp only
  split
  · exact List.forall_mem_singleton.mpr trivial
  · split
    · exact List.forall_mem_cons.mpr ⟨hphoto _, List.forall_mem_singleton.mpr hlayout⟩
    · refine List.forall_mem_cons.mpr ⟨trivial, ?_⟩
      split
      · exact List.forall_mem_cons.mpr ⟨hphoto _, List.forall_mem_singleton.mpr hlayout⟩
      · exact List.forall_mem_singleton.mpr trivial

theorem isLight_quoteSteps (theme : Theme) (n : Node) :
    ∀ step ∈ quoteSteps theme n, step.IsLight := by
  have hlayout : ∀ step ∈ [Step.layout "blockquote-layout" "blockquote-layout" [] "layout"],
      step.IsLight :=
    List.forall_mem_singleton.mpr ⟨by decide, by decide, nofun⟩
  have hpulled (text : Text) : ∀ step ∈ pullquoteSteps (.str text), step.IsLight :=
    List.forall_mem_cons.mpr
      ⟨isLight_text _ text, List.forall_mem_singleton.mpr ⟨by decide, by decide, nofun⟩⟩
  have hblock (text : Text) : ∀ step ∈ blockquoteSteps theme (.str text), step.IsLight :=
    List.forall_mem_cons.mpr ⟨isLight_text _ text, List.forall_mem_cons.mpr
      ⟨⟨by decide, by decide, nofun⟩,
        List.forall_mem_singleton.mpr (isLight_borderStep (by decide) (by decide) _ _ _)⟩⟩
  rw [quoteSteps]
  split
  · split
    · exact List.forall_mem_singleton.mpr trivial
    · exact List.forall_mem_append.mpr ⟨hpulled _, hlayout⟩
  · split
    · exact List.forall_mem_append.mpr ⟨hpulled _, hlayout⟩
    · exact List.forall_mem_append.mpr ⟨hblock _, hlayout⟩

theorem isLight_headingSteps (n : Node) : ∀ step ∈ headingSteps n, step.IsLight := by
  rw [headingSteps]
  cases hlevel : Kind.headingLevel? n.tag with
  | none => exact List.forall_mem_singleton.mpr trivial
  | some level =>
      obtain ⟨hlow, hhigh⟩ := Setup.headingLevel?_bounds hlevel
      have hstyle : ("default-heading-" : Text) ++ Text.ofNat level ≠ Spec.conditionalKey := by
        clear hlevel
        interval_cases level <;> decide
      have hvalues (role text : Text) :
          Spec.LightValues [("heading_level", .str role), ("text", .str text)] :=
        Spec.lightValues_of_forall rfl
          (List.forall_mem_cons.mpr
            ⟨Json.isLight_str role, List.forall_mem_singleton.mpr (Json.isLight_str text)⟩)
      exact List.forall_mem_cons.mpr ⟨hvalues _ _, List.forall_mem_cons.mpr
        ⟨⟨hstyle, by decide, Spec.lightValues_nil⟩,
          List.forall_mem_singleton.mpr ⟨by decide, by decide, Spec.lightValues_nil⟩⟩⟩

theorem isLight_numberedNotes (htheme : theme.IsLight) (number : Nat) (items : List Node) :
    ∀ note ∈ numberedNotes theme number items, note.IsLight := by
  induction items generalizing number with
  | nil => nofun
  | cons item items ih =>
      have hidentifier : (((item.get? "id").map Json.str).getD .null).IsLight := by
        cases item.get? "id" with
        | none => nofun
        | some id => nofun
      refine List.forall_mem_cons.mpr ⟨Kind.isLight_resolved htheme ?_ _ _, ih _⟩
      exact Spec.lightValues_of_forall rfl
        (List.forall_mem_cons.mpr ⟨nofun, List.forall_mem_singleton.mpr hidentifier⟩)

/-- Whatever a component of a standard variant is made of, no step brings variants. -/
theorem isLight_recipe
    (htheme : theme.HasNoTemplates) (hlight : theme.IsLight) {v : Variant}
    (hv : v ∈ Variant.standard) (settings : Settings) (n : Node) (parts : List Component)
    {fragments : List Json} (hfragments : ∀ f ∈ fragments, f.IsLight) :
    ∀ step ∈ (Setup.start theme v n parts).recipe settings theme fragments, step.IsLight := by
  simp only [Variant.standard, List.mem_cons, List.not_mem_nil, or_false] at hv
  rcases hv with rfl | rfl | rfl | rfl | rfl | rfl | rfl
  · exact isLight_asideSteps hfragments
  · change ∀ step ∈ footnotesSteps (Setup.start theme .footnotes n parts) theme, step.IsLight
    rw [footnotesSteps, Setup.footnotes_of_isBuiltIn htheme]
    have hvalues : Spec.LightValues [("components", .arr (numberedNotes theme 1
        (n.elementChildren.filter fun n => n.tag == Text.ofString "li")))] :=
      Spec.lightValues_of_forall rfl
        (List.forall_mem_singleton.mpr (Json.isLight_arr (isLight_numberedNotes hlight 1 _)))
    exact List.forall_mem_cons.mpr
      ⟨hvalues, List.forall_mem_singleton.mpr ⟨by decide, by decide, Spec.lightValues_nil⟩⟩
  · exact isLight_imageSteps settings n
  · exact isLight_quoteSteps theme n
  · exact isLight_headingSteps n
  · exact List.forall_mem_cons.mpr
      ⟨Spec.lightValues_nil,
        List.forall_mem_singleton.mpr ⟨by decide, by decide, Spec.lightValues_nil⟩⟩
  · exact List.forall_mem_cons.mpr ⟨isLight_text _ _, List.forall_mem_cons.mpr
      ⟨⟨by decide, by decide, Spec.lightValues_nil⟩,
        List.forall_mem_singleton.mpr ⟨by decide, by decide, Spec.lightValues_nil⟩⟩⟩

end Component

/-! ## What a walk yields -/

namespace Setup

variable {settings : Settings} {theme : Theme}

theorem Builds.isLight
    {v : Variant} {n : Node} {parts : List Component} {c : Component} {l : Ledger}
    (h : (standard settings theme).Builds v n parts c l) (htheme : theme.HasNoTemplates)
    (hlight : theme.IsLight) (hv : v ∈ Variant.standard) (hparts : ∀ p ∈ parts, p.json.IsLight) :
    c.json.IsLight ∧ l.IsLight := by
  have hfragments : ∀ f ∈ parts.map Component.fragment, f.IsLight :=
    List.forall_mem_map.mpr hparts
  have hsteps := Component.isLight_recipe htheme hlight hv settings n parts hfragments
  obtain ⟨rfl, rfl⟩ := h.eq_outcomes_recipe htheme
  exact Step.isLight_outcomes hlight (c := start theme v n parts) nofun hsteps

/-- Under a theme without values for dark mode a walk yields nothing with variants. -/
theorem isLight_of_yields
    (htheme : theme.HasNoTemplates) (hlight : theme.IsLight) {ns : List Node}
    {cs : List Component} {l : Ledger} (h : (standard settings theme).Yields ns cs l) :
    (∀ c ∈ cs, c.json.IsLight) ∧ l.IsLight := by
  have hplain {v : Variant} (hv : v ∈ Variant.standard) {m : Node} {c : Component} {k : Ledger}
      (hbuilds : (standard settings theme).Builds v m [] c k) :
      (∀ d ∈ [c], d.json.IsLight) ∧ k.IsLight := by
    obtain ⟨hjson, hledger⟩ := hbuilds.isLight htheme hlight hv nofun
    exact ⟨List.forall_mem_singleton.mpr hjson, hledger⟩
  induction h with
  | nil => exact ⟨nofun, .empty⟩
  | cons first rest ih ih' =>
      exact ⟨List.forall_mem_append.mpr ⟨ih.1, ih'.1⟩, ih.2.merge ih'.2⟩
  | blank isText dropped => exact ⟨nofun, .empty⟩
  | loose visible inText builds => exact hplain (by decide) builds
  | unsupported isElement unmatched tag => exact ⟨nofun, nofun, nofun, nofun⟩
  | inside isElement unmatched supported notInText children ih => exact ih
  | plain isElement matched isPlain builds => exact hplain (of_match?_eq_some matched).1 builds
  | parent isElement matched isParent children builds ih =>
      obtain ⟨hjson, hledger⟩ :=
        builds.isLight htheme hlight (of_match?_eq_some matched).1 ih.1
      exact ⟨List.forall_mem_singleton.mpr hjson, ih.2.merge hledger⟩

end Setup

end ArticleExport
