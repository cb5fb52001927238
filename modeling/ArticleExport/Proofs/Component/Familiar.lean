import ArticleExport.Proofs.Component.Fragments

/-!
# Which specs a component looks up

Whatever a component is made of, its steps look up specs that its kind brings along, and
take a spec with variants for nothing but a style.
-/

namespace ArticleExport

namespace Kind

/-- The specs of styles; no other built-in spec has variants. -/
def styleSpecs : List Text :=
  ["default-body", "default-heading-1", "default-heading-2", "default-heading-3",
    "default-heading-4", "default-heading-5", "default-heading-6", "default-blockquote",
    "default-pullquote", "blockquote-with-border-json", "blockquote-without-border-json",
    "aside-with-border-json", "aside-without-border-json"]

end Kind

/-- Whether a step looks up nothing but specs that its kind knows, and specs of styles for styles
only. -/
def Step.isFamiliar (k : Kind) (theme : Theme) : Step → Bool
  | json spec _ | layout _ spec _ _ | wideLayout _ spec _ _ =>
    k.knows theme spec && !Kind.styleSpecs.contains spec
  | textStyle _ spec _ _ | style _ spec _ _ => k.knows theme spec
  | bundle _ | side _ | stop _ => true

namespace Component

variable {theme : Theme}

theorem isFamiliar_borderStep {k : Kind} {withSpec withoutSpec : Text}
    (hwith : k.knows theme withSpec = true) (hwithout : k.knows theme withoutSpec = true)
    (key withBorder without : Text) :
    (borderStep theme key withBorder withSpec without withoutSpec).isFamiliar k theme = true := by
  rw [borderStep]
  split
  · exact hwithout
  · exact hwith

theorem isFamiliar_asideSteps (parts : List Json) :
    (asideSteps theme parts).all (Step.isFamiliar .aside theme) = true := by
  have hborder : (borderStep theme "aside_border_style" "default-aside" "aside-with-border-json"
      "default-aside" "aside-without-border-json").isFamiliar .aside theme = true :=
    isFamiliar_borderStep rfl rfl _ _ _
  rw [asideSteps]
  simp only [List.all_cons, hborder]
  split
  · rfl
  · rfl

theorem isFamiliar_imageSteps (settings : Settings) (n : Node) :
    (imageSteps settings n).all (Step.isFamiliar .image theme) = true := by
  rw [imageSteps]
  dsimp only
  split
  · rfl
  · split
    · split
      · rfl
      · rfl
    · rename_i image _ _
      rw [List.all_cons]
      cases Address.fileName ((image.get? "src").getD []) with
      | error f => rfl
      | ok name =>
          dsimp only
          split
          · rfl
          · rfl

theorem isFamiliar_quoteSteps (n : Node) :
    (quoteSteps theme n).all (Step.isFamiliar .quote theme) = true := by
  have hborder : (borderStep theme "blockquote_border_style" "default-blockquote-with-border"
      "blockquote-with-border-json" "default-blockquote-without-border"
      "blockquote-without-border-json").isFamiliar .quote theme = true :=
    isFamiliar_borderStep rfl rfl _ _ _
  rw [quoteSteps]
  split
  · split
    · rfl
    · rfl
  · split
    · rfl
    · simp only [blockquoteSteps, List.all_append, List.all_cons, hborder]
      rfl

theorem isFamiliar_headingSteps (n : Node) :
    (headingSteps n).all (Step.isFamiliar .heading theme) = true := by
  rw [headingSteps]
  cases hlevel : Kind.headingLevel? n.tag with
  | none => rfl
  | some level =>
      obtain ⟨hlow, hhigh⟩ := Setup.headingLevel?_bounds hlevel
      have hstyle : Kind.heading.knows theme (("default-heading-" : Text) ++ Text.ofNat level) =
          true :=
        Setup.knows_heading_style hlow hhigh
      simp only [List.all_cons, Step.isFamiliar, hstyle]
      rfl

theorem isFamiliar_footnotesSteps (c : Component) :
    (footnotesSteps c theme).all (Step.isFamiliar .footnotes theme) = true := by
  rw [footnotesSteps]
  split
  · rfl
  · rfl

theorem isFamiliar_inArticleSteps (c : Component) :
    (inArticleSteps c theme).all (Step.isFamiliar .inArticle theme) = true := by
  rw [inArticleSteps]
  split
  · rfl
  · rfl

theorem isFamiliar_beside {k : Kind} {steps : List Step}
    (h : steps.all (Step.isFamiliar k theme) = true) (side : Option Side) :
    (match side with
      | some side => steps ++ [Step.side side]
      | none => steps).all (Step.isFamiliar k theme) = true := by
  cases side with
  | none => exact h
  | some side =>
      rw [List.all_append, h]
      rfl

/-- Whatever a component is made of, its steps look up built-in specs of its kind. -/
theorem isFamiliar_recipe (c : Component) (settings : Settings) (parts : List Json) :
    (c.recipe settings theme parts).all (Step.isFamiliar c.variant.kind theme) = true := by
  rw [Component.recipe]
  refine isFamiliar_beside ?_ c.variant.side
  cases c.variant.kind with
  | aside => exact isFamiliar_asideSteps parts
  | footnotes => exact isFamiliar_footnotesSteps c
  | image => exact isFamiliar_imageSteps settings c.node
  | quote => exact isFamiliar_quoteSteps c.node
  | heading => exact isFamiliar_headingSteps c.node
  | divider => rfl
  | body => rfl
  | inArticle => exact isFamiliar_inArticleSteps c

end Component

/-- A step that looks up what its kind knows comes to its end unless it is to stop. -/
theorem Step.isKnown_of_isFamiliar {k : Kind} {theme : Theme} {step : Step}
    (h : step.isFamiliar k theme = true) (hstop : ∀ f, step ≠ .stop f) :
    step.isKnown k theme = true := by
  cases step with
  | json spec values => exact ((Bool.and_eq_true _ _).mp h).1
  | layout name spec values property => exact ((Bool.and_eq_true _ _).mp h).1
  | wideLayout name spec values property => exact ((Bool.and_eq_true _ _).mp h).1
  | textStyle name spec values property => exact h
  | style name spec values property => exact h
  | bundle address => rfl
  | side s => rfl
  | stop f => exact absurd rfl (hstop f)

theorem Step.outcomes_variant (theme : Theme) (c : Component) (steps : List Step) :
    (outcomes theme c steps).1.variant = c.variant := by
  induction steps generalizing c with
  | nil => rfl
  | cons step steps ih =>
      rw [outcomes]
      exact (ih _).trans (outcome_lookup theme c step).1

/-- What steps enter depends on the component through its variant alone. -/
theorem Step.outcomes_ledger_congr {theme : Theme} {c d : Component} (h : c.variant = d.variant)
    (steps : List Step) :
    (outcomes theme c steps).2 = (outcomes theme d steps).2 := by
  induction steps generalizing c d with
  | nil => rfl
  | cons step steps ih =>
      have hnext : (step.outcome theme c).1.variant = (step.outcome theme d).1.variant := by
        rw [(outcome_lookup theme c step).1, (outcome_lookup theme d step).1, h]
      have hentered : (step.outcome theme c).2 = (step.outcome theme d).2 := by
        cases step <;> simp only [outcome, h]
      rw [outcomes, outcomes]
      exact congrArg₂ Ledger.merge hentered (ih hnext)

namespace Setup

variable {settings : Settings} {theme : Theme} {v : Variant} {n : Node} {parts : List Component}
  {c : Component} {l : Ledger}

theorem isKnown_recipe {fragments : List Json}
    (hstop : ∀ f, Step.stop f ∉ (start theme v n parts).recipe settings theme fragments) :
    ((start theme v n parts).recipe settings theme fragments).all (Step.isKnown v.kind theme) =
      true := by
  have hfamiliar : ((start theme v n parts).recipe settings theme fragments).all
      (Step.isFamiliar v.kind theme) = true :=
    Component.isFamiliar_recipe _ _ _
  refine List.all_eq_true.mpr ?_
  intro step hstep
  refine Step.isKnown_of_isFamiliar (List.all_eq_true.mp hfamiliar step hstep) ?_
  rintro f rfl
  exact hstop f hstep

/-- What is built has come of the outcomes of its recipe. -/
theorem Builds.eq_outcomes_recipe
    (h : (standard settings theme).Builds v n parts c l) (htheme : theme.HasNoTemplates) :
    let steps := (start theme v n parts).recipe settings theme (parts.map Component.fragment)
    c = { (Step.outcomes theme (start theme v n parts) steps).1 with stage := .built } ∧
      l = (Step.outcomes theme (start theme v n parts) steps).2 :=
  h.eq_outcomes htheme rfl (isKnown_recipe fun f => h.stop_not_mem rfl f)

/-- A recipe that does not stop builds a component. -/
theorem exists_builds
    (htheme : theme.HasNoTemplates)
    (hstop : ∀ f, Step.stop f ∉
      (start theme v n parts).recipe settings theme (parts.map Component.fragment)) :
    ∃ c l, (standard settings theme).Builds v n parts c l :=
  ⟨_, _, finish_of_isKnown (c := start theme v n parts) htheme rfl rfl (isKnown_recipe hstop)⟩

theorem Builds.variant_eq
    (h : (standard settings theme).Builds v n parts c l) (htheme : theme.HasNoTemplates) :
    c.variant = v := by
  obtain ⟨rfl, -⟩ := h.eq_outcomes_recipe htheme
  exact Step.outcomes_variant theme (start theme v n parts) _

end Setup

end ArticleExport
