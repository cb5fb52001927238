import ArticleExport.Proofs.Component.Fragments

/-!
# The layouts that components enter

A component enters layouts under names that belong to its kind, whatever its specs say.  The
in-article module is the only kind with a name of its own that no node can lead to, so a walk
over content never enters a layout under it.
-/

namespace ArticleExport

/-- The name of the layout of the in-article module. -/
def moduleLayoutName : Text := "in-article-layout"

/-- The names under which components of a kind enter layouts. -/
def Kind.layoutNames : Kind → List Text
  | .aside => ["aside-layout-left", "aside-layout-right"]
  | .footnotes | .body => ["body-layout"]
  | .image => ["full-bleed-image", "non-anchored-image"]
  | .quote => ["blockquote-layout"]
  | .heading => ["heading-layout"]
  | .divider => ["divider-layout"]
  | .inArticle => [moduleLayoutName]

theorem Kind.moduleLayoutName_not_mem {k : Kind} (h : k ≠ .inArticle) :
    moduleLayoutName ∉ k.layoutNames := by
  cases k with
  | inArticle => exact absurd rfl h
  | _ => decide

/-- Whether a step enters no layout but under some names. -/
def Step.entersOnly (names : List Text) : Step → Bool
  | layout name _ _ _ | wideLayout name _ _ _ => names.contains name
  | _ => true

namespace Component

variable {theme : Theme}

theorem entersOnly_borderStep
    (names : List Text) (key withBorder withSpec without withoutSpec : Text) :
    (borderStep theme key withBorder withSpec without withoutSpec).entersOnly names = true := by
  rw [borderStep]
  split <;> rfl

theorem entersOnly_asideSteps (parts : List Json) :
    (asideSteps theme parts).all (Step.entersOnly Kind.aside.layoutNames) = true := by
  rw [asideSteps]
  simp only [List.all_cons, entersOnly_borderStep]
  split <;> rfl

theorem entersOnly_imageSteps (settings : Settings) (n : Node) :
    (imageSteps settings n).all (Step.entersOnly Kind.image.layoutNames) = true := by
  have hlayout : (if settings.fullBleedImages then
      Step.wideLayout "full-bleed-image" "full-bleed-image" [] "layout"
      else Step.layout "non-anchored-image" "non-anchored-image" [] "layout").entersOnly
        Kind.image.layoutNames = true := by
    split <;> rfl
  rw [imageSteps]
  dsimp only
  split
  · rfl
  · rename_i image _
    split
    · simp only [List.all_cons, hlayout]
      rfl
    · rw [List.all_cons]
      cases Address.fileName ((image.get? "src").getD []) with
      | error f => rfl
      | ok name =>
          simp only [List.all_cons, hlayout]
          rfl

theorem entersOnly_quoteSteps (n : Node) :
    (quoteSteps theme n).all (Step.entersOnly Kind.quote.layoutNames) = true := by
  rw [quoteSteps]
  split
  · split <;> rfl
  · split
    · rfl
    · simp only [blockquoteSteps, List.all_append, List.all_cons, entersOnly_borderStep]
      rfl

theorem entersOnly_headingSteps (n : Node) :
    (headingSteps n).all (Step.entersOnly Kind.heading.layoutNames) = true := by
  rw [headingSteps]
  split <;> rfl

theorem entersOnly_footnotesSteps (c : Component) :
    (footnotesSteps c theme).all (Step.entersOnly Kind.footnotes.layoutNames) = true := by
  rw [footnotesSteps]
  split <;> rfl

theorem entersOnly_inArticleSteps (c : Component) :
    (inArticleSteps c theme).all (Step.entersOnly Kind.inArticle.layoutNames) = true := by
  rw [inArticleSteps]
  split <;> rfl

/-- Whatever a component is made of, it enters layouts under the names of its kind only. -/
theorem entersOnly_recipe (c : Component) (settings : Settings) (parts : List Json) :
    (c.recipe settings theme parts).all (Step.entersOnly c.variant.kind.layoutNames) = true := by
  unfold recipe
  extract_lets steps
  have hsteps : steps.all (Step.entersOnly c.variant.kind.layoutNames) = true := by
    dsimp only [steps]
    cases c.variant.kind with
    | aside => exact entersOnly_asideSteps parts
    | footnotes => exact entersOnly_footnotesSteps c
    | image => exact entersOnly_imageSteps settings c.node
    | quote => exact entersOnly_quoteSteps c.node
    | heading => exact entersOnly_headingSteps c.node
    | divider => rfl
    | body => rfl
    | inArticle => exact entersOnly_inArticleSteps c
  cases c.variant.side with
  | none => exact hsteps
  | some side =>
      rw [List.all_append, hsteps]
      rfl

end Component

/-! ## What a walk enters -/

theorem Step.mem_of_run
    {theme : Theme} {c : Component} {step : Step} {names : List Text} {x : Component × Ledger}
    (h : step.run theme c = .ok x) (honly : step.entersOnly names = true) :
    ∀ name ∈ Table.keys x.2.layouts, name ∈ names := by
  cases step with
  | layout own spec values property | wideLayout own spec values property =>
      obtain ⟨v, -, hx⟩ := exceptBind_eq_ok h
      obtain rfl := Except.ok.inj hx
      intro name hname
      obtain rfl := List.mem_singleton.mp hname
      exact List.contains_iff_mem.mp honly
  | json spec values | textStyle own spec values property | style own spec values property =>
      obtain ⟨v, -, hx⟩ := exceptBind_eq_ok h
      obtain rfl := Except.ok.inj hx
      exact nofun
  | bundle address | side side =>
      obtain rfl := Except.ok.inj h
      exact nofun
  | stop f => cases h

theorem Making.mem_of_steps
    {theme : Theme} {c : Component} {steps : List Step} {names : List Text}
    (h : steps.all (Step.entersOnly names) = true) :
    ∀ name ∈ Table.keys (Making.steps theme c steps).ledger.layouts, name ∈ names := by
  intro name hname
  induction steps generalizing c with
  | nil => cases hname
  | cons step steps ih =>
      obtain ⟨hstep, hsteps⟩ := (Bool.and_eq_true _ _).mp h
      rw [Making.steps] at hname
      split at hname
      · rename_i d entered hrun
        rcases Table.mem_keys_merge.mp hname with hfirst | hrest
        · exact Step.mem_of_run hrun hstep name hfirst
        · exact ih hsteps hrest
      · cases hname

namespace Setup

variable {s : Setup}

theorem Builds.mem_layoutNames {v : Variant} {n : Node} {parts : List Component} {c : Component}
    {l : Ledger} (h : s.Builds v n parts c l) :
    ∀ name ∈ Table.keys l.layouts, name ∈ v.kind.layoutNames := by
  obtain rfl := (Making.mk.inj h).2.1
  exact Making.mem_of_steps (Component.entersOnly_recipe _ _ _)

/-- No node leads to an in-article module, so no walk enters a layout under the module's name. -/
theorem Yields.moduleLayoutName_not_mem {ns : List Node} {cs : List Component} {l : Ledger}
    (h : s.Yields ns cs l) : moduleLayoutName ∉ Table.keys l.layouts := by
  have hmade {v : Variant} {n : Node} {parts : List Component} {c : Component} {l : Ledger}
      (hkind : v.kind ≠ .inArticle) (hbuilds : s.Builds v n parts c l) :
      moduleLayoutName ∉ Table.keys l.layouts :=
    fun hname => Kind.moduleLayoutName_not_mem hkind (hbuilds.mem_layoutNames _ hname)
  have hmatched {n m : Node} {v : Variant} (hmatch : s.match? n = some (v, m)) :
      v.kind ≠ .inArticle := by
    intro hmodule
    have htaken := (of_match?_eq_some hmatch).2
    rw [hmodule] at htaken
    cases htaken
  induction h with
  | nil => exact List.not_mem_nil
  | cons _ _ hfirst hrest => exact fun hname => (Table.mem_keys_merge.mp hname).elim hfirst hrest
  | blank => exact List.not_mem_nil
  | loose _ _ hbuilds => exact hmade (by decide) hbuilds
  | unsupported => exact List.not_mem_nil
  | inside _ _ _ _ _ hchildren => exact hchildren
  | plain _ hmatch _ hbuilds => exact hmade (hmatched hmatch) hbuilds
  | parent _ hmatch _ _ hbuilds hchildren =>
      intro hname
      rcases Table.mem_keys_merge.mp hname with hinside | hown
      · exact hchildren hinside
      · exact hmade (hmatched hmatch) hbuilds hown

end Setup

end ArticleExport
