import ArticleExport.Proofs.Component.BuiltIn
import ArticleExport.Proofs.Walk.Yields
import Mathlib.Tactic.IntervalCases

/-!
# The fragments that components are

Under the built-in templates a component of each kind comes to a fragment of a fixed
form, and to entries under fixed names.  Theme values stand in the entries and in the
stroke of a divider, nowhere else.
-/

namespace ArticleExport

/-- The setup of a run with the standard variants and nothing but the built-in templates. -/
def Setup.standard (settings : Settings) (theme : Theme) : Setup :=
  ⟨settings, theme, .empty, some .standard⟩

/-! ## The forms of fragments -/

/-- A fragment of text as markup, with more fields behind the text. -/
def textFields (role : Text) (text : Json) (more : Table Json) : Table Json :=
  ("role", .str role) :: ("text", text) :: ("format", "html") :: more

/-- The notes of list items, numbered from a number on. -/
def numberedNotes (theme : Theme) (number : Nat) : List Node → List Json
  | [] => []
  | item :: items =>
    .obj (Kind.footnotes.resolved theme "footnote-json"
      [("text", .str (Text.ofNat number ++ (". " : Text) ++ item.innerHtml.strip)),
        ("identifier", ((item.get? "id").map Json.str).getD .null)]) ::
      numberedNotes theme (number + 1) items

/-- The node of the picture of a photo. -/
def pictureOf (n : Node) : Option Node :=
  if n.tag = "img" then some n else (n.descendants "img").head?

/-- A fragment of a photo, with its caption where it has one. -/
def photoFields (n : Node) (address layout : Text) : Table Json :=
  ("role", "photo") :: ("URL", .str address) ::
    if (Component.captionOf n).isNull then [("layout", .str layout)]
    else [("caption", Component.captionOf n), ("layout", .str layout)]

/-- A fragment of a photo without a caption. -/
def bareFields (address layout : Text) : Table Json :=
  [("role", "photo"), ("URL", .str address), ("layout", .str layout)]

theorem get?_photoFields {name : Text} (h : name ≠ "caption") (n : Node) (address layout : Text) :
    Table.get? name (photoFields n address layout) =
      Table.get? name (bareFields address layout) := by
  rw [photoFields, bareFields]
  split
  · rfl
  · simp only [Table.get?_cons, if_neg h.symm]

/-- The layout of photos. -/
def photoLayout (settings : Settings) (theme : Theme) : Text × Json :=
  if settings.fullBleedImages then
    ("full-bleed-image",
      .obj (Step.spanning theme (Kind.image.resolved theme "full-bleed-image" [])))
  else ("non-anchored-image", .obj (Kind.image.resolved theme "non-anchored-image" []))

/-- The node of the text of a pull quote, where a quote is one. -/
def pulledFrom (n : Node) : Option Node :=
  if n.tag = "figure" then (n.descendants "blockquote").head?
  else if n.hasClass Kind.pullquoteClass then some n else none

/-- The name of the style of a block quote. -/
def quoteStyle (theme : Theme) : Text :=
  if theme.value "blockquote_border_style" = Json.str "none" then
    "default-blockquote-without-border"
  else "default-blockquote-with-border"

/-- The side at which asides stand. -/
def asideSide (theme : Theme) : Side :=
  if theme.value "aside_alignment" = Json.str "left" then .left else .right

/-- The name of the layout of asides. -/
def asideLayoutName (theme : Theme) : Text := ("aside-layout-" : Text) ++ (asideSide theme).name

namespace Kind

/-- The entry of a built-in spec of a kind. -/
def entry (k : Kind) (theme : Theme) (name spec : Text) : Text × Json :=
  (name, .obj (k.resolved theme spec []))

/-- The fragment that a component of a kind is for a node and the fragments of the components
inside it, and what is entered for it. -/
inductive Makes (settings : Settings) (theme : Theme) (n : Node) :
    Kind → List Json → Table Json → Ledger → Prop
  | body :
      Makes settings theme n .body []
        (textFields "body" (.str n.outerHtml)
          [("textStyle", "default-body"), ("layout", "body-layout")])
        ⟨[body.entry theme "default-body" "default-body"],
          [body.entry theme "body-layout" "body-layout"], [], [], []⟩
  | heading {level : Nat} {style : Text} (isLevel : headingLevel? n.tag = some level)
      (isStyle : style = ("default-heading-" : Text) ++ Text.ofNat level) :
      Makes settings theme n .heading []
        (textFields (("heading" : Text) ++ Text.ofNat level) (Component.markupOf n)
          [("textStyle", .str style), ("layout", "heading-layout")])
        ⟨[heading.entry theme style style],
          [heading.entry theme "heading-layout" "heading-layout"], [], [], []⟩
  | divider {stroke : Json} :
      Makes settings theme n .divider []
        [("role", "divider"), ("stroke", stroke), ("layout", "divider-layout")]
        ⟨[], [divider.entry theme "divider-layout" "divider-layout"], [], [], []⟩
  | remotePhoto {picture : Node} (isPicture : pictureOf n = some picture)
      (isRemote : settings.useRemoteImages = true) :
      Makes settings theme n .image []
        (photoFields n ((picture.get? "src").getD []) (photoLayout settings theme).1)
        ⟨[], [photoLayout settings theme], [], [], []⟩
  | bundledPhoto {picture : Node} {name : Text} (isPicture : pictureOf n = some picture)
      (isBundled : settings.useRemoteImages = false)
      (isName : Address.fileName ((picture.get? "src").getD []) = .ok name) :
      Makes settings theme n .image []
        (photoFields n (Component.bundleScheme ++ name) (photoLayout settings theme).1)
        ⟨[], [photoLayout settings theme], [], addBundle [] ((picture.get? "src").getD []), []⟩
  | pullquote {m : Node} (isPulled : pulledFrom n = some m) :
      Makes settings theme n .quote []
        (textFields "pullquote" (Component.markupOf m)
          [("textStyle", "default-pullquote"), ("layout", "blockquote-layout")])
        ⟨[quote.entry theme "default-pullquote" "default-pullquote"],
          [quote.entry theme "blockquote-layout" "blockquote-layout"], [], [], []⟩
  | blockquote (spec : Text) (isBlock : pulledFrom n = none) :
      Makes settings theme n .quote []
        (textFields "quote" (Component.markupOf n)
          [("textStyle", "default-blockquote"), ("style", .str (quoteStyle theme)),
            ("layout", "blockquote-layout")])
        ⟨[quote.entry theme "default-blockquote" "default-blockquote"],
          [quote.entry theme "blockquote-layout" "blockquote-layout"],
          [quote.entry theme (quoteStyle theme) spec], [], []⟩
  | footnotes :
      Makes settings theme n .footnotes []
        [("role", "container"), ("layout", "body-layout"),
          ("components", .arr (numberedNotes theme 1
            (n.elementChildren.filter fun n => n.tag == Text.ofString "li")))]
        ⟨[], [footnotes.entry theme "body-layout" "body-layout"], [], [], []⟩
  | aside {parts : List Json} {spec : Text} :
      Makes settings theme n .aside parts
        [("role", "aside"), ("layout", .str (asideLayoutName theme)), ("components", .arr parts),
          ("style", "default-aside")]
        ⟨[], [aside.entry theme (asideLayoutName theme) (asideLayoutName theme)],
          [aside.entry theme "default-aside" spec], [], []⟩

end Kind

/-! ## What is built has these forms -/

namespace Setup

variable {settings : Settings} {theme : Theme} {n : Node}

/-- The component from which a variant builds under the built-in templates. -/
def start (theme : Theme) (v : Variant) (n : Node) (parts : List Component) : Component :=
  ⟨v, n, v.kind.registry theme .empty, [], parts.map fun p => p.variant.kind, none, .unbuilt⟩

theorem finish_of_isKnown
    (htheme : theme.HasNoTemplates) {c : Component} (hc : c.IsBuiltIn theme) {parts : List Json}
    {steps : List Step} (hrecipe : c.recipe settings theme parts = steps)
    (hknown : steps.all (Step.isKnown c.variant.kind theme) = true) :
    (standard settings theme).finish c parts =
      ⟨{ (Step.outcomes theme c steps).1 with stage := .built }, (Step.outcomes theme c steps).2,
        none⟩ := by
  have hsteps := Making.steps_of_isKnown htheme hc hknown
  have hmade : Making.steps (standard settings theme).theme c
      (c.recipe (standard settings theme).settings (standard settings theme).theme parts) =
        ⟨(Step.outcomes theme c steps).1, (Step.outcomes theme c steps).2, none⟩ := by
    rw [← hsteps, ← hrecipe]
    rfl
  rw [finish, hmade]
  rfl

/-- What is built by known steps has come of their outcomes. -/
theorem Builds.eq_outcomes
    {v : Variant} {parts : List Component} {c : Component} {l : Ledger}
    (h : (standard settings theme).Builds v n parts c l) (htheme : theme.HasNoTemplates)
    {steps : List Step}
    (hrecipe : (start theme v n parts).recipe settings theme (parts.map Component.fragment) = steps)
    (hknown : steps.all (Step.isKnown v.kind theme) = true) :
    c = { (Step.outcomes theme (start theme v n parts) steps).1 with stage := .built } ∧
      l = (Step.outcomes theme (start theme v n parts) steps).2 := by
  have hfinish := finish_of_isKnown (c := start theme v n parts) htheme rfl hrecipe hknown
  obtain ⟨hcomponent, hledger, -⟩ := Making.mk.inj (h.symm.trans hfinish)
  exact ⟨hcomponent, hledger⟩

theorem steps_failure_of_stop
    {c : Component} {steps : List Step} {f : Failure} (h : Step.stop f ∈ steps) :
    (Making.steps theme c steps).failure ≠ none := by
  induction steps generalizing c with
  | nil => cases h
  | cons step steps ih =>
      cases hrun : step.run theme c with
      | error e =>
          rw [Making.steps, hrun]
          intro hnone
          cases hnone
      | ok done =>
          rw [Making.steps_cons_of_ok hrun]
          rcases List.mem_cons.mp h with rfl | hrest
          · cases hrun
          · exact ih hrest

/-- Nothing is built by steps of which one is to stop. -/
theorem Builds.stop_not_mem
    {v : Variant} {parts : List Component} {c : Component} {l : Ledger}
    (h : (standard settings theme).Builds v n parts c l) {steps : List Step}
    (hrecipe : (start theme v n parts).recipe settings theme (parts.map Component.fragment) = steps)
    (f : Failure) :
    Step.stop f ∉ steps := by
  intro hstop
  rw [← hrecipe] at hstop
  exact steps_failure_of_stop (c := start theme v n parts) hstop (Making.mk.inj h).2.2

theorem makes_body
    {c : Component} {l : Ledger} (htheme : theme.HasNoTemplates)
    (h : (standard settings theme).Builds .body n [] c l) :
    Kind.Makes settings theme n .body [] c.json l ∧ c.side = none := by
  obtain ⟨rfl, rfl⟩ := h.eq_outcomes htheme rfl rfl
  exact ⟨.body, rfl⟩

theorem headingLevel?_bounds {tag : Text} {level : Nat} (h : Kind.headingLevel? tag = some level) :
    1 ≤ level ∧ level ≤ 6 := by
  have hdigit {d : CodePoint}
      (hd : (if 49 ≤ d.value && d.value ≤ 54 then some (d.value - 48) else none) = some level) :
      1 ≤ level ∧ level ≤ 6 := by
    split at hd
    · rename_i hrange
      obtain ⟨hlow, hhigh⟩ := (Bool.and_eq_true _ _).mp hrange
      obtain rfl := Option.some.inj hd
      have hlow := of_decide_eq_true hlow
      have hhigh := of_decide_eq_true hhigh
      omega
    · cases hd
  unfold Kind.headingLevel? at h
  split at h
  · exact hdigit h
  · exact hdigit h
  · cases h

theorem knows_heading_style {level : Nat} (hlow : 1 ≤ level) (hhigh : level ≤ 6) :
    Kind.heading.knows theme (("default-heading-" : Text) ++ Text.ofNat level) = true := by
  interval_cases level
  all_goals rfl

theorem makes_heading
    {c : Component} {l : Ledger} (htheme : theme.HasNoTemplates)
    (h : (standard settings theme).Builds .heading n [] c l) :
    Kind.Makes settings theme n .heading [] c.json l ∧ c.side = none := by
  have hrecipe : (start theme .heading n []).recipe settings theme [] = Component.headingSteps n :=
    rfl
  rw [Component.headingSteps] at hrecipe
  cases hlevel : Kind.headingLevel? n.tag with
  | none =>
      rw [hlevel] at hrecipe
      exact (h.stop_not_mem hrecipe _ (.head _)).elim
  | some level =>
      obtain ⟨hlow, hhigh⟩ := headingLevel?_bounds hlevel
      rw [hlevel] at hrecipe
      have hstyle : Variant.heading.kind.knows theme
          (("default-heading-" : Text) ++ Text.ofNat level) = true :=
        knows_heading_style hlow hhigh
      obtain ⟨rfl, rfl⟩ := h.eq_outcomes htheme hrecipe (by
        simp only [List.all_cons, List.all_nil, Step.isKnown, hstyle, Bool.and_true, Bool.true_and]
        rfl)
      exact ⟨.heading hlevel rfl, rfl⟩

theorem makes_divider
    {c : Component} {l : Ledger} (htheme : theme.HasNoTemplates)
    (h : (standard settings theme).Builds .divider n [] c l) :
    Kind.Makes settings theme n .divider [] c.json l ∧ c.side = none := by
  obtain ⟨rfl, rfl⟩ := h.eq_outcomes htheme rfl rfl
  exact ⟨.divider, rfl⟩

/-- A style with a border or without one is entered by a step under a name of its own. -/
theorem borderStep_eq (theme : Theme) (key withBorder withSpec without withoutSpec : Text) :
    ∃ spec, Component.borderStep theme key withBorder withSpec without withoutSpec =
        .style (if theme.value key = Json.str "none" then without else withBorder) spec [] "style" ∧
      (spec = withSpec ∨ spec = withoutSpec) := by
  rw [Component.borderStep]
  split
  · exact ⟨withoutSpec, rfl, .inr rfl⟩
  · exact ⟨withSpec, rfl, .inl rfl⟩

theorem knows_aside_layout (theme : Theme) :
    Kind.aside.knows theme (asideLayoutName theme) = true := by
  rw [asideLayoutName]
  cases asideSide theme with
  | left => rfl
  | right => rfl

theorem makes_aside
    {parts : List Component} {c : Component} {l : Ledger} (htheme : theme.HasNoTemplates)
    (h : (standard settings theme).Builds .aside n parts c l) :
    Kind.Makes settings theme n .aside (parts.map Component.fragment) c.json l ∧
      c.side = some (asideSide theme) := by
  have hrecipe : (start theme .aside n parts).recipe settings theme (parts.map Component.fragment) =
      Component.asideSteps theme (parts.map Component.fragment) := rfl
  obtain ⟨spec, hborder, hspec⟩ := borderStep_eq theme "aside_border_style" "default-aside"
    "aside-with-border-json" "default-aside" "aside-without-border-json"
  have hsteps : Component.asideSteps theme (parts.map Component.fragment) =
      [.json "json" [("components", .arr (parts.map Component.fragment))],
        .style "default-aside" spec [] "style",
        .layout (asideLayoutName theme) (asideLayoutName theme) [] "layout",
        .side (asideSide theme)] := by
    rw [Component.asideSteps, hborder, ite_self]
    rfl
  have hlayout : Variant.aside.kind.knows theme (asideLayoutName theme) = true :=
    knows_aside_layout theme
  have hstyle : Variant.aside.kind.knows theme spec = true := by
    rcases hspec with rfl | rfl
    · rfl
    · rfl
  obtain ⟨rfl, rfl⟩ := h.eq_outcomes htheme (hrecipe.trans hsteps) (by
    simp only [List.all_cons, List.all_nil, Step.isKnown, hstyle, hlayout, Bool.and_true]
    rfl)
  exact ⟨.aside, rfl⟩

theorem makes_quote
    {c : Component} {l : Ledger} (htheme : theme.HasNoTemplates)
    (h : (standard settings theme).Builds .quote n [] c l) :
    Kind.Makes settings theme n .quote [] c.json l ∧ c.side = none := by
  have hrecipe : (start theme .quote n []).recipe settings theme [] =
      Component.quoteSteps theme n := rfl
  have hpulled {m : Node} (hm : pulledFrom n = some m)
      (hsteps : Component.quoteSteps theme n = Component.pullquoteSteps (Component.markupOf m) ++
        [.layout "blockquote-layout" "blockquote-layout" [] "layout"]) :
      Kind.Makes settings theme n .quote [] c.json l ∧ c.side = none := by
    obtain ⟨rfl, rfl⟩ := h.eq_outcomes htheme (hrecipe.trans hsteps) rfl
    exact ⟨.pullquote hm, rfl⟩
  by_cases hfigure : n.tag = "figure"
  · cases hquotes : n.descendants "blockquote" with
    | nil =>
        have hsteps : Component.quoteSteps theme n = [.stop (.fault .missingPart)] := by
          simp only [Component.quoteSteps, if_pos hfigure, hquotes]
        exact (h.stop_not_mem (hrecipe.trans hsteps) _ (.head _)).elim
    | cons m rest =>
        refine hpulled (m := m) ?_ ?_
        · rw [pulledFrom, if_pos hfigure, hquotes]
          rfl
        · simp only [Component.quoteSteps, if_pos hfigure, hquotes]
  · by_cases hclass : n.hasClass Kind.pullquoteClass
    · refine hpulled (m := n) ?_ ?_
      · rw [pulledFrom, if_neg hfigure, if_pos hclass]
      · simp only [Component.quoteSteps, if_neg hfigure, if_pos hclass]
    · obtain ⟨spec, hborder, hspec⟩ := borderStep_eq theme "blockquote_border_style"
        "default-blockquote-with-border" "blockquote-with-border-json"
        "default-blockquote-without-border" "blockquote-without-border-json"
      have hsteps : Component.quoteSteps theme n =
          [.json "blockquote-json" [("text", Component.markupOf n)],
            .textStyle "default-blockquote" "default-blockquote" [] "textStyle",
            .style (quoteStyle theme) spec [] "style",
            .layout "blockquote-layout" "blockquote-layout" [] "layout"] := by
        simp only [Component.quoteSteps, if_neg hfigure, if_neg hclass, Component.blockquoteSteps,
          hborder]
        rfl
      have hstyle : Variant.quote.kind.knows theme spec = true := by
        rcases hspec with rfl | rfl
        · rfl
        · rfl
      have hnone : pulledFrom n = none := by
        rw [pulledFrom, if_neg hfigure, if_neg hclass]
      obtain ⟨rfl, rfl⟩ := h.eq_outcomes htheme (hrecipe.trans hsteps) (by
        simp only [List.all_cons, List.all_nil, Step.isKnown, hstyle, Bool.and_true, Bool.true_and]
        rfl)
      exact ⟨.blockquote spec hnone, rfl⟩

/-- The steps for a photo under an address. -/
def photoSteps (settings : Settings) (n : Node) (address : Text) : List Step :=
  [.json "json" [("url", .str address), ("caption", Component.captionOf n)],
    if settings.fullBleedImages then .wideLayout "full-bleed-image" "full-bleed-image" [] "layout"
    else .layout "non-anchored-image" "non-anchored-image" [] "layout"]

theorem isKnown_photoSteps (settings : Settings) (theme : Theme) (n : Node) (address : Text) :
    (photoSteps settings n address).all (Step.isKnown Kind.image theme) = true := by
  rw [photoSteps]
  split
  · rfl
  · rfl

theorem outcomes_photoSteps (settings : Settings) (theme : Theme) (n : Node) (address : Text) :
    Step.outcomes theme (start theme .image n []) (photoSteps settings n address) =
      ({ start theme .image n [] with
          json := photoFields n address (photoLayout settings theme).1 },
        ⟨[], [photoLayout settings theme], [], [], []⟩) := by
  let values : Table Json := [("url", .str address), ("caption", Component.captionOf n)]
  let caption : Table Json :=
    if (Component.captionOf n).isNull then [] else [("caption", Component.captionOf n)]
  have hresolved : Kind.image.resolved theme "json" values =
      (("role", "photo") :: ("URL", .str address) :: caption : Table Json) := rfl
  have hset (layout : Text) : photoFields n address layout =
      Table.set "layout" (.str layout) (Kind.image.resolved theme "json" values) := by
    simp only [hresolved, caption, photoFields]
    split
    · rfl
    · rfl
  rw [photoSteps, photoLayout]
  split
  · rw [hset]
    rfl
  · rw [hset]
    rfl

theorem makes_image
    {c : Component} {l : Ledger} (htheme : theme.HasNoTemplates)
    (h : (standard settings theme).Builds .image n [] c l) :
    Kind.Makes settings theme n .image [] c.json l ∧ c.side = none := by
  have hrecipe : (start theme .image n []).recipe settings theme [] =
      Component.imageSteps settings n := rfl
  cases hpicture : pictureOf n with
  | none =>
      have hsteps : Component.imageSteps settings n = [.stop (.fault .missingPart)] := by
        rw [Component.imageSteps, ← pictureOf, hpicture]
      exact (h.stop_not_mem (hrecipe.trans hsteps) _ (.head _)).elim
  | some picture =>
      by_cases hremote : settings.useRemoteImages = true
      · have hsteps : Component.imageSteps settings n =
            photoSteps settings n ((picture.get? "src").getD []) := by
          rw [Component.imageSteps, ← pictureOf, hpicture]
          exact if_pos hremote
        obtain ⟨rfl, rfl⟩ := h.eq_outcomes htheme (hrecipe.trans hsteps)
          (isKnown_photoSteps settings theme n _)
        rw [outcomes_photoSteps]
        exact ⟨.remotePhoto hpicture hremote, rfl⟩
      · cases hname : Address.fileName ((picture.get? "src").getD []) with
        | error f =>
            have hsteps : Component.imageSteps settings n =
                [.bundle ((picture.get? "src").getD []), .stop (.fault f)] := by
              rw [Component.imageSteps, ← pictureOf, hpicture]
              simp only [if_neg hremote, hname]
            exact (h.stop_not_mem (hrecipe.trans hsteps) _ (.tail _ (.head _))).elim
        | ok name =>
            have hsteps : Component.imageSteps settings n =
                .bundle ((picture.get? "src").getD []) ::
                  photoSteps settings n (Component.bundleScheme ++ name) := by
              rw [Component.imageSteps, ← pictureOf, hpicture]
              simp only [if_neg hremote, hname]
              rfl
            obtain ⟨rfl, rfl⟩ := h.eq_outcomes htheme (hrecipe.trans hsteps)
              (isKnown_photoSteps settings theme n (Component.bundleScheme ++ name))
            have hbundled (address source : Text) :
                Step.outcomes theme (start theme .image n [])
                    (.bundle source :: photoSteps settings n address) =
                  ({ start theme .image n [] with
                      json := photoFields n address (photoLayout settings theme).1 },
                    ⟨[], [photoLayout settings theme], [], addBundle [] source, []⟩) := by
              rw [Step.outcomes]
              dsimp only [Step.outcome]
              rw [outcomes_photoSteps]
              rfl
            rw [hbundled]
            exact ⟨.bundledPhoto hpicture (Bool.eq_false_iff.mpr hremote) hname, rfl⟩

theorem footnotes_of_isBuiltIn
    (htheme : theme.HasNoTemplates) (number : Nat) (items : List Node) (parts : List Component) :
    Component.footnotes (start theme .footnotes n parts) theme number items =
      .ok (numberedNotes theme number items) := by
  induction items generalizing number with
  | nil => rfl
  | cons item items ih =>
      have hnote (values : Table Json) :
          (start theme .footnotes n parts).render theme "footnote-json" values =
            .ok (.obj (Kind.footnotes.resolved theme "footnote-json" values)) :=
        Component.render_of_isBuiltIn (c := start theme .footnotes n parts) htheme rfl rfl values
      rw [Component.footnotes, hnote, ih]
      rfl

theorem makes_footnotes
    {c : Component} {l : Ledger} (htheme : theme.HasNoTemplates)
    (h : (standard settings theme).Builds .footnotes n [] c l) :
    Kind.Makes settings theme n .footnotes [] c.json l ∧ c.side = none := by
  have hrecipe : (start theme .footnotes n []).recipe settings theme [] =
      Component.footnotesSteps (start theme .footnotes n []) theme := rfl
  have hsteps : Component.footnotesSteps (start theme .footnotes n []) theme =
      [.json "json" [("components", .arr (numberedNotes theme 1
          (n.elementChildren.filter fun n => n.tag == Text.ofString "li")))],
        .layout "body-layout" "body-layout" [] []] := by
    rw [Component.footnotesSteps, footnotes_of_isBuiltIn htheme]
    rfl
  obtain ⟨rfl, rfl⟩ := h.eq_outcomes htheme (hrecipe.trans hsteps) rfl
  exact ⟨.footnotes, rfl⟩

/-- Whatever a standard variant builds under the built-in templates has the form of its kind. -/
theorem Builds.makes
    {v : Variant} {parts : List Component} {c : Component} {l : Ledger}
    (h : (standard settings theme).Builds v n parts c l) (htheme : theme.HasNoTemplates)
    (hv : v ∈ Variant.standard) (hparts : v.isParent ∨ parts = []) :
    Kind.Makes settings theme n v.kind (parts.map Component.fragment) c.json l ∧
      c.side = if v.kind = .aside then some (asideSide theme) else none := by
  have hnone : v.isParent = false → parts = [] := fun hplain =>
    hparts.resolve_left (by rw [hplain]; exact nofun)
  simp only [Variant.standard, List.mem_cons, List.not_mem_nil, or_false] at hv
  rcases hv with rfl | rfl | rfl | rfl | rfl | rfl | rfl
  · exact makes_aside htheme h
  · obtain rfl := hnone rfl
    exact makes_footnotes htheme h
  · obtain rfl := hnone rfl
    exact makes_image htheme h
  · obtain rfl := hnone rfl
    exact makes_quote htheme h
  · obtain rfl := hnone rfl
    exact makes_heading htheme h
  · obtain rfl := hnone rfl
    exact makes_divider htheme h
  · obtain rfl := hnone rfl
    exact makes_body htheme h

end Setup

end ArticleExport
