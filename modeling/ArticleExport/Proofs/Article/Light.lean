import ArticleExport.Proofs.Article.Anchors
import ArticleExport.Proofs.Article.Assembly
import ArticleExport.Proofs.Component.Light

/-!
# Articles without variants

Beside what its components yield, an article has entries for the styles of its markup, for
the layouts of what is anchored and for its information.  Under a theme without values for
dark mode none of these has an entry under `conditional` but what the information brings.
-/

namespace ArticleExport

/-! ## Anchors -/

/-- Whether there are no variants in components that are being anchored, and in their layouts. -/
structure Anchoring.IsLight (a : Anchoring) : Prop where
  components : ∀ c ∈ a.components, c.json.IsLight
  layouts : a.layouts.IsLight

namespace Anchoring

variable {theme : Theme} {a b : Anchoring}

theorem isLight_anchor {identifier : Json} (h : identifier.IsLight) :
    (anchor identifier).IsLight := by
  have hentries : Table.IsLight [("targetComponentIdentifier", identifier),
      ("targetAnchorPosition", "center")] := by
    refine Table.IsLight.iff_keys.mpr ⟨?_, ?_⟩
    · show Spec.conditionalKey ∉ (["targetComponentIdentifier", "targetAnchorPosition"] : List Text)
      decide
    · exact List.forall_mem_cons.mpr ⟨h, List.forall_mem_singleton.mpr nofun⟩
  exact hentries

theorem isLight_anchorLayout {side : Side} {layout : Json}
    (h : anchorLayout theme side = .ok layout) :
    layout.IsLight := by
  obtain ⟨columns, -, hspan⟩ := exceptBind_eq_ok h
  obtain ⟨span, -, hlayout⟩ := exceptBind_eq_ok hspan
  obtain rfl := Except.ok.inj hlayout
  simp only [Json.IsLight, Json.names, Json.namesOfEntries]
  decide

/-- A component in its place may be replaced by one without variants. -/
theorem IsLight.set (h : a.IsLight) {c : Component} (hc : c.json.IsLight) (i : Nat) :
    ∀ d ∈ a.components.set i c, d.json.IsLight := by
  intro d hd
  rcases List.mem_or_eq_of_mem_set hd with hold | rfl
  · exact h.components d hold
  · exact hc

theorem IsLight.identify (h : a.IsLight) (target : Nat) : (a.identify target).IsLight := by
  rw [Anchoring.identify]
  split
  · rename_i c hc
    split
    · exact h
    · have hcomponent := h.components c (List.mem_of_getElem? hc)
      exact ⟨h.set (Component.isLight_set hcomponent (by decide) _) target, h.layouts⟩
  · exact h

/-- Attaching a component brings no variants. -/
theorem IsLight.attach {i : Nat} (h : a.IsLight) (hattach : Anchoring.attach theme a i = .ok b) :
    b.IsLight := by
  rcases attach_cases hattach with rfl | ⟨c, side, target, hc, -, -, hb⟩
  · exact h
  have hknown := h.identify target
  have hidentifier :
      (((a.identify target).components[target]?.map Component.identifier).getD .null).IsLight := by
    cases ht : (a.identify target).components[target]? with
    | none => nofun
    | some t => exact (hknown.components t (List.mem_of_getElem? ht)).get?_getD "identifier"
  have hattached := (h.components c (List.mem_of_getElem? hc)).set
    (show Text.ofString "anchor" ≠ Spec.conditionalKey by decide) (isLight_anchor hidentifier)
  rcases hb with ⟨-, rfl⟩ | ⟨-, layout, hlayout, rfl⟩
  · exact ⟨hknown.set hattached i, hknown.layouts⟩
  · have hname : side.layoutName ≠ Spec.conditionalKey := by
      cases side <;> decide
    exact ⟨hknown.set (Component.isLight_set hattached (by decide) _) i,
      hknown.layouts.setIfAbsent hname (isLight_anchorLayout hlayout)⟩

end Anchoring

/-! ## Styles of the markup -/

theorem isLight_registerStyles {styles entries : Table Json} (hstyles : styles.IsLight)
    (hentries : entries.IsLight) (hobjects : ∀ e ∈ entries, ∃ fields, e.2 = .obj fields) :
    Table.IsLight (registerStyles styles entries).1 := by
  induction entries generalizing styles with
  | nil => exact hstyles
  | cons e entries ih =>
      obtain ⟨name, style⟩ := e
      obtain ⟨⟨fields, rfl⟩, hrest⟩ := List.forall_mem_cons.mp hobjects
      obtain ⟨⟨hname, hstyle⟩, hlight⟩ :=
        List.forall_mem_cons.mp (Table.IsLight.iff_forall.mp hentries)
      rw [registerStyles, Json.toMapping_obj]
      exact ih (hstyles.setIfAbsent hname hstyle) (Table.IsLight.iff_forall.mpr hlight) hrest

namespace Setup

variable {settings : Settings} {theme : Theme}

theorem addTagStyles_builtIn (htheme : theme.HasNoTemplates) (styles : Table Json) :
    addTagStyles styles ((Kind.body.registry theme .empty).find? "body" "default-text-styles")
        theme =
      registerStyles styles (Kind.body.resolved theme "default-text-styles" []) := by
  have hfound := Kind.find?_registry_empty .body theme "default-text-styles"
  change SpecRegistry.find? _ "body" _ = some _ at hfound
  rw [hfound, addTagStyles, Spec.substitute, Spec.effective, Theme.template?_eq_none htheme]
  rfl

/-- Each built-in style of the markup is an object. -/
theorem objects_textStyles (theme : Theme) :
    ∀ e ∈ Kind.body.resolved theme "default-text-styles" [], ∃ fields, e.2 = .obj fields := by
  obtain ⟨code, pre, samp, heq⟩ : ∃ code pre samp : Table Json,
      Kind.body.resolved theme "default-text-styles" [] =
        ([("default-tag-code", .obj code), ("default-tag-pre", .obj pre),
          ("default-tag-samp", .obj samp)] : Table Json) :=
    ⟨_, _, _, rfl⟩
  rw [heq]
  exact List.forall_mem_cons.mpr ⟨⟨code, rfl⟩, List.forall_mem_cons.mpr
    ⟨⟨pre, rfl⟩, List.forall_mem_singleton.mpr ⟨samp, rfl⟩⟩⟩

theorem isLight_tagStyles (htheme : theme.HasNoTemplates) (hlight : theme.IsLight) :
    (standard settings theme).tagStyles.ledger.IsLight := by
  have hresolved : Table.IsLight (Kind.body.resolved theme "default-text-styles" []) :=
    Kind.isLight_resolved hlight Spec.lightValues_nil _ _
  have hstyles : Table.IsLight
      (registerStyles [] (Kind.body.resolved theme "default-text-styles" [])).1 :=
    isLight_registerStyles .nil hresolved (objects_textStyles theme)
  have hadded := congrArg Prod.fst (addTagStyles_builtIn htheme [])
  rw [tagStyles]
  split
  · dsimp only
    split
    · rename_i styles count hregistered
      have hstyled : (registerStyles [] (Kind.body.resolved theme "default-text-styles" [])).1 =
          styles :=
        hadded.symm.trans (congrArg Prod.fst hregistered)
      rw [hstyled] at hstyles
      exact ⟨hstyles, .nil, .nil⟩
    · exact .empty
  · exact .empty

theorem isLight_metadata (info : ArticleInfo) : info.metadata.IsLight := by
  have hdate (date : Option Moment) {name : Text} (hname : name ≠ Spec.conditionalKey) :
      Table.IsLight (ArticleInfo.dateEntry name date) := by
    cases date with
    | none => nofun
    | some m => exact .singleton hname nofun
  have happend {s t : Table Json} (hs : s.IsLight) (ht : t.IsLight) : Table.IsLight (s ++ t) :=
    Table.IsLight.iff_forall.mpr (List.forall_mem_append.mpr
      ⟨Table.IsLight.iff_forall.mp hs, Table.IsLight.iff_forall.mp ht⟩)
  have hgenerator : Table.IsLight ArticleInfo.generator :=
    show Spec.conditionalKey ∉ Json.namesOfEntries ArticleInfo.generator by decide
  exact happend (happend (happend (hdate _ (by decide)) (hdate _ (by decide)))
    (hdate _ (by decide))) hgenerator

/-- The entries of an article have no variants but what its information brings. -/
theorem isLight_article
    (hlight : theme.IsLight) {l : Ledger} (hl : l.IsLight) {cs : List Component}
    (hcs : ∀ c ∈ cs, c.json.IsLight) {layouts : Table Json} (hlayouts : layouts.IsLight)
    (info : ArticleInfo) :
    Table.IsLight ((standard settings theme).article info l cs layouts) ↔
      ∀ v ∈ [info.identifier, info.title, info.language], v.IsLight := by
  have hlayout : (articleLayout (standard settings theme).theme).IsLight := by
    have hentries : Table.IsLight [("columns", theme.value "layout_columns"),
        ("width", theme.value "layout_width"), ("margin", theme.value "layout_margin"),
        ("gutter", theme.value "layout_gutter")] := by
      refine Table.IsLight.iff_keys.mpr ⟨?_, ?_⟩
      · show Spec.conditionalKey ∉ (["columns", "width", "margin", "gutter"] : List Text)
        decide
      · simp only [Table.values, List.map_cons, List.map_nil, List.forall_mem_cons, hlight.values]
        exact ⟨trivial, trivial, trivial, trivial, List.forall_mem_nil _⟩
    exact hentries
  have hmetadata := isLight_metadata info
  have hcomponents : (Json.arr (cs.map Component.fragment)).IsLight :=
    Json.isLight_arr (List.forall_mem_map.mpr hcs)
  have hversion : (Json.str formatVersion).IsLight := Json.isLight_str formatVersion
  have hkeys : Spec.conditionalKey ∉
      Table.keys ((standard settings theme).article info l cs layouts) := by
    show Spec.conditionalKey ∉ (["version", "identifier", "title", "language", "layout",
      "components", "componentTextStyles", "componentLayouts", "componentStyles", "metadata"] :
      List Text)
    decide
  have htextStyles : (Json.obj l.textStyles).IsLight := hl.textStyles
  have hstyles : (Json.obj l.componentStyles).IsLight := hl.componentStyles
  have hlayouts : (Json.obj layouts).IsLight := hlayouts
  have hinfo : (Json.obj info.metadata).IsLight := hmetadata
  rw [Table.IsLight.iff_keys, and_iff_right hkeys]
  simp only [Table.values, article, List.map_cons, List.map_nil, List.forall_mem_cons,
    hversion, hlayout, hcomponents, htextStyles, hlayouts, hstyles, hinfo, true_and]

/-- Under a theme without values for dark mode an article has no variants but what its information
brings. -/
theorem isLight_of_assemble
    (htheme : theme.HasNoTemplates) (hlight : theme.IsLight) {root : Node} {info : ArticleInfo}
    {r : ExportResult} (h : (standard settings theme).assemble root info = .ok r) :
    Table.IsLight r.article ↔ ∀ v ∈ [info.identifier, info.title, info.language], v.IsLight := by
  obtain ⟨cs, a, hcs, ha, rfl⟩ := assemble_eq_ok h
  rw [components_eq settings htheme] at hcs ha ⊢
  obtain ⟨_, -, hwalk, hledger⟩ := Work.andThen_result_eq_ok hcs
  obtain ⟨hcomponents, hentered⟩ :=
    isLight_of_yields htheme hlight (yields_of_walkAll root.children hwalk)
  have hstyles : (standard settings theme).tagStyles.ledger.IsLight :=
    isLight_tagStyles htheme hlight
  have hall := hstyles.merge hentered
  rw [← hledger] at hall
  have hanchored : a.IsLight :=
    Anchoring.foldlM_attach (motive := Anchoring.IsLight)
      (fun hknown hattach => hknown.attach hattach) ⟨hcomponents, hall.layouts⟩ ha
  exact isLight_article hlight hall hanchored.components hanchored.layouts info

end Setup

end ArticleExport
