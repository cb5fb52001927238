import ArticleExport.Component.Recipe
import ArticleExport.Proofs.Component.Specs

/-!
# What a step does to a component

A step depends on the specs that its component looks up only through the specs of the
component's kind, and of the component it changes nothing but the JSON and the side.
-/

namespace ArticleExport

namespace Component

/-- A component that looks its specs up in a registry. -/
def withSpecs (c : Component) (r : SpecRegistry) : Component := { c with specs := r }

/-- A component that has to look its specs up elsewhere. -/
def bare (c : Component) : Component := c.withSpecs .empty

end Component

/-! ## Looking specs up -/

/-- Work that yields a result has yielded one in both of its parts. -/
theorem exceptBind_eq_ok {ε α β : Type} {x : Except ε α} {k : α → Except ε β} {b : β}
    (h : x.bind k = .ok b) :
    ∃ a, x = .ok a ∧ k a = .ok b := by
  cases x with
  | error e => cases h
  | ok a => exact ⟨a, rfl, h⟩

theorem exceptMap_eq_ok {ε α β : Type} {f : α → β} {x : Except ε α} {b : β} (h : x.map f = .ok b) :
    ∃ a, x = .ok a ∧ f a = b := by
  cases x with
  | error e => cases h
  | ok a => exact ⟨a, rfl, Except.ok.inj h⟩

theorem exceptMapError_eq_ok {ε ε' α : Type} {f : ε → ε'} {x : Except ε α} {a : α}
    (h : x.mapError f = .ok a) :
    x = .ok a := by
  cases x with
  | error e => cases h
  | ok b => exact congrArg Except.ok (Except.ok.inj h)

/-- Work that fails has failed in one of its parts. -/
theorem exceptBind_eq_error_iff {ε α β : Type} {x : Except ε α} {k : α → Except ε β} {e : ε} :
    x.bind k = .error e ↔ x = .error e ∨ ∃ a, x = .ok a ∧ k a = .error e := by
  cases x with
  | error e' => simp [Except.bind]
  | ok a => simp [Except.bind]

theorem exists_of_isOk {ε α : Type} {x : Except ε α} (h : x.isOk = true) : ∃ a, x = .ok a := by
  cases x with
  | error e => cases h
  | ok a => exact ⟨a, rfl⟩

theorem exists_of_holds {ε α : Type} {x : Except ε α} {p : α → Bool}
    (h : x.toOption.any p = true) : ∃ a, x = .ok a ∧ p a = true := by
  cases x with
  | error e => cases h
  | ok a => exact ⟨a, rfl, h⟩

section Lookup

variable {c : Component} {r : SpecRegistry}

theorem Component.render_withSpecs
    (h : r.specsFor c.name = c.specs.specsFor c.name)
    (theme : Theme) (spec : Text) (values : Table Json) :
    (c.withSpecs r).render theme spec values = c.render theme spec values := by
  have hget : r.get c.name spec = c.specs.get c.name spec := by
    simp only [SpecRegistry.get, SpecRegistry.find?, h]
  exact congrArg (fun e => (e.bind fun s => s.substitute values theme).mapError Failure.fault) hget

theorem Component.footnotes_withSpecs
    (h : r.specsFor c.name = c.specs.specsFor c.name)
    (theme : Theme) (number : Nat) (items : List Node) :
    footnotes (c.withSpecs r) theme number items = footnotes c theme number items := by
  induction items generalizing number with
  | nil => rfl
  | cons item items ih => simp only [footnotes, Component.render_withSpecs h, ih]

theorem Component.recipe_withSpecs
    (h : r.specsFor c.name = c.specs.specsFor c.name)
    (settings : Settings) (theme : Theme) (parts : List Json) :
    (c.withSpecs r).recipe settings theme parts = c.recipe settings theme parts := by
  have hnotes : footnotesSteps (c.withSpecs r) theme = footnotesSteps c theme := by
    simp only [footnotesSteps, Component.footnotes_withSpecs h]
    rfl
  have hmodule : inArticleSteps (c.withSpecs r) theme = inArticleSteps c theme := by
    simp only [inArticleSteps, Component.render_withSpecs h]
  simp only [recipe, hnotes, hmodule]
  rfl

/-- A step is carried out alike on two components with the same JSON at the same side, if they
resolve their specs alike. -/
theorem Step.run_eq_map
    {e : Component} (hjson : e.json = c.json) (hside : e.side = c.side) {theme : Theme}
    (hrender : ∀ spec values, e.render theme spec values = c.render theme spec values)
    (step : Step) :
    step.run theme e = (step.run theme c).map fun done =>
      ({ e with json := done.1.json, side := done.1.side }, done.2) := by
  have hmapping (spec : Text) (values : Table Json) :
      e.renderMapping theme spec values = c.renderMapping theme spec values := by
    rw [Component.renderMapping, Component.renderMapping, hrender]
  have hset (name : Text) (value : Json) :
      e.set name value =
        { e with json := (c.set name value).json, side := (c.set name value).side } := by
    rw [Component.set, Component.set, hjson, ← hside]
  have hrefer (property name : Text) :
      Step.refer e property name =
        { e with
          json := (Step.refer c property name).json, side := (Step.refer c property name).side } := by
    rw [Step.refer, Step.refer]
    split
    · rw [← hjson, ← hside]
    · exact hset property _
  cases step with
  | json spec values =>
      simp only [Step.run, hrender, ← hside]
      cases c.render theme spec values <;> rfl
  | textStyle name spec values property =>
      simp only [Step.run, hmapping, hset]
      cases c.renderMapping theme spec values <;> rfl
  | layout name spec values property =>
      simp only [Step.run, hmapping, hrefer]
      cases c.renderMapping theme spec values <;> rfl
  | wideLayout name spec values property =>
      simp only [Step.run, hrender, hrefer]
      cases c.render theme spec values <;> rfl
  | style name spec values property =>
      simp only [Step.run, hmapping, hset]
      cases c.renderMapping theme spec values <;> rfl
  | bundle address => simp only [Step.run, Except.map, ← hjson, ← hside]
  | side s => simp only [Step.run, Except.map, ← hjson]
  | stop f => rfl

theorem Step.refer_eq (c : Component) (property name : Text) :
    Step.refer c property name = { c with json := (Step.refer c property name).json } := by
  rw [Step.refer]
  split
  · rfl
  · rfl

/-- A step changes nothing but the JSON and the side. -/
theorem Step.eq_of_run
    {theme : Theme} {step : Step} {d : Component} {entered : Ledger}
    (h : step.run theme c = .ok (d, entered)) :
    d = { c with json := d.json, side := d.side } := by
  cases step with
  | json spec values =>
      obtain ⟨resolved, -, hok⟩ := exceptBind_eq_ok h
      obtain ⟨rfl, -⟩ := Prod.mk.inj (Except.ok.inj hok)
      rfl
  | textStyle name spec values property =>
      obtain ⟨style, -, hok⟩ := exceptBind_eq_ok h
      obtain ⟨rfl, -⟩ := Prod.mk.inj (Except.ok.inj hok)
      rfl
  | layout name spec values property =>
      obtain ⟨layout, -, hok⟩ := exceptBind_eq_ok h
      obtain ⟨rfl, -⟩ := Prod.mk.inj (Except.ok.inj hok)
      rw [Step.refer_eq]
  | wideLayout name spec values property =>
      obtain ⟨layout, -, hok⟩ := exceptBind_eq_ok h
      obtain ⟨rfl, -⟩ := Prod.mk.inj (Except.ok.inj hok)
      rw [Step.refer_eq]
  | style name spec values property =>
      obtain ⟨style, -, hok⟩ := exceptBind_eq_ok h
      obtain ⟨rfl, -⟩ := Prod.mk.inj (Except.ok.inj hok)
      rfl
  | bundle address =>
      obtain ⟨rfl, -⟩ := Prod.mk.inj (Except.ok.inj h)
      rfl
  | side s =>
      obtain ⟨rfl, -⟩ := Prod.mk.inj (Except.ok.inj h)
      rfl
  | stop f => cases h

/-- A step enters nothing, one style or layout, or the bundle that it is for. -/
theorem Step.entered_of_run
    {theme : Theme} {step : Step} {d : Component} {entered : Ledger}
    (h : step.run theme c = .ok (d, entered)) :
    entered = .empty ∨ (∃ name style, entered = .ofTextStyle name style) ∨
      (∃ name layout, entered = .ofLayout name layout) ∨
      (∃ name style, entered = .ofComponentStyle name style) ∨
      ∃ address, step = .bundle address ∧ entered = .ofBundle address := by
  cases step with
  | json spec values =>
      obtain ⟨resolved, -, hok⟩ := exceptBind_eq_ok h
      obtain ⟨-, rfl⟩ := Prod.mk.inj (Except.ok.inj hok)
      exact .inl rfl
  | textStyle name spec values property =>
      obtain ⟨style, -, hok⟩ := exceptBind_eq_ok h
      obtain ⟨-, rfl⟩ := Prod.mk.inj (Except.ok.inj hok)
      exact .inr (.inl ⟨name, style, rfl⟩)
  | layout name spec values property =>
      obtain ⟨layout, -, hok⟩ := exceptBind_eq_ok h
      obtain ⟨-, rfl⟩ := Prod.mk.inj (Except.ok.inj hok)
      exact .inr (.inr (.inl ⟨name, layout, rfl⟩))
  | wideLayout name spec values property =>
      obtain ⟨layout, -, hok⟩ := exceptBind_eq_ok h
      obtain ⟨-, rfl⟩ := Prod.mk.inj (Except.ok.inj hok)
      exact .inr (.inr (.inl ⟨name, _, rfl⟩))
  | style name spec values property =>
      obtain ⟨style, -, hok⟩ := exceptBind_eq_ok h
      obtain ⟨-, rfl⟩ := Prod.mk.inj (Except.ok.inj hok)
      exact .inr (.inr (.inr (.inl ⟨name, style, rfl⟩)))
  | bundle address =>
      obtain ⟨-, rfl⟩ := Prod.mk.inj (Except.ok.inj h)
      exact .inr (.inr (.inr (.inr ⟨address, rfl, rfl⟩)))
  | side s =>
      obtain ⟨-, rfl⟩ := Prod.mk.inj (Except.ok.inj h)
      exact .inl rfl
  | stop f => cases h

/-- A step is carried out alike by registries that agree on the component's specs. -/
theorem Step.run_withSpecs
    (h : r.specsFor c.name = c.specs.specsFor c.name) (theme : Theme) (step : Step) :
    step.run theme (c.withSpecs r) =
      (step.run theme c).map fun done => (done.1.withSpecs r, done.2) := by
  rw [Step.run_eq_map (c := c) (e := c.withSpecs r) rfl rfl (Component.render_withSpecs h theme) step]
  cases hrun : step.run theme c with
  | error f => rfl
  | ok done =>
      obtain ⟨d, entered⟩ := done
      have hd := congrArg (fun e => e.withSpecs r) (Step.eq_of_run hrun)
      exact congrArg (fun e => Except.ok (e, entered)) hd.symm

theorem Making.steps_cons_of_ok
    {theme : Theme} {step : Step} {done : Component × Ledger}
    (h : step.run theme c = .ok done) (steps : List Step) :
    Making.steps theme c (step :: steps) =
      ⟨(Making.steps theme done.1 steps).component,
        done.2.merge (Making.steps theme done.1 steps).ledger,
        (Making.steps theme done.1 steps).failure⟩ := by
  rw [Making.steps, h]

end Lookup

end ArticleExport
