import ArticleExport.Component.Walk
import ArticleExport.Proofs.Component.Steps

/-!
# Components of the built-in templates

Where neither the host nor the theme brings a template of its own, every spec that a
component looks up is there and resolves to an object.  So each step comes to its end
with an outcome that can be written down.
-/

namespace ArticleExport

/-- Whether a theme brings no templates of its own. -/
def Theme.HasNoTemplates (theme : Theme) : Prop :=
  (theme.value Theme.templatesKey).isTruthy = false

theorem Theme.template?_eq_none {theme : Theme} (h : theme.HasNoTemplates) (component spec : Text) :
    theme.template? component spec = .ok none := by
  rw [template?]
  exact if_pos (by rw [h]; rfl)

/-! ## What specs resolve to -/

namespace Kind

/-- The fields to which a built-in spec of a kind resolves by values and a theme. -/
def resolved (k : Kind) (theme : Theme) (spec : Text) (values : Table Json) : Table Json :=
  match Table.get? spec (SpecRegistry.entries (k.specs theme)) with
  | some s =>
    ((Spec.resolve (Spec.source (Spec.unmarked values) theme) s.template).entries?).getD []
  | none => []

/-- Whether a kind has a built-in spec of a name. -/
def knows (k : Kind) (theme : Theme) (spec : Text) : Bool :=
  Table.has spec (SpecRegistry.entries (k.specs theme))

theorem resolve_obj (lookup : Text → Json) (entries : Table Json) :
    ∃ fields, Spec.resolve lookup (.obj entries) = .obj fields := by
  rw [Spec.resolve]
  split
  · exact ⟨_, rfl⟩
  · exact ⟨_, rfl⟩

/-- The built-in templates are objects. -/
theorem template_of_mem_specs {k : Kind} {theme : Theme} {s : Spec} (h : s ∈ k.specs theme) :
    ∃ entries, s.template = .obj entries := by
  have hall : (k.specs theme).all (fun s => s.template.entries?.isSome) = true := by
    cases k <;> rfl
  have hsome := List.all_eq_true.mp hall s h
  obtain ⟨entries, hentries⟩ := Option.isSome_iff_exists.mp hsome
  refine ⟨entries, ?_⟩
  cases htemplate : s.template with
  | obj fields =>
      rw [htemplate] at hentries
      exact congrArg Json.obj (Option.some.inj hentries)
  | _ =>
      rw [htemplate] at hentries
      cases hentries

theorem find?_registry_empty (k : Kind) (theme : Theme) (spec : Text) :
    (k.registry theme .empty).find? k.name spec =
      Table.get? spec (SpecRegistry.entries (k.specs theme)) := by
  rw [SpecRegistry.find?, specsFor_registry, if_pos rfl, Table.get?_merge]
  rfl

end Kind

/-- A component that looks up the built-in specs of its kind alone. -/
def Component.IsBuiltIn (c : Component) (theme : Theme) : Prop :=
  c.specs = c.variant.kind.registry theme .empty

section Steps

variable {theme : Theme} {c : Component}

theorem Component.render_of_isBuiltIn
    (htheme : theme.HasNoTemplates) (hc : c.IsBuiltIn theme) {spec : Text}
    (hknown : c.variant.kind.knows theme spec) (values : Table Json) :
    c.render theme spec values = .ok (.obj (c.variant.kind.resolved theme spec values)) := by
  obtain ⟨s, hs⟩ := Option.isSome_iff_exists.mp hknown
  have hmem := (Kind.mem_specs_of_get?_eq_some hs).1
  have hget : c.specs.get c.name spec = .ok s := by
    rw [hc, SpecRegistry.get, Component.name, Kind.find?_registry_empty, hs]
  have heffective : s.effective theme = .ok s.template := by
    rw [Spec.effective, Theme.template?_eq_none htheme]
    rfl
  obtain ⟨entries, htemplate⟩ := Kind.template_of_mem_specs hmem
  obtain ⟨fields, hfields⟩ := Kind.resolve_obj (Spec.source (Spec.unmarked values) theme) entries
  have hresolved : c.variant.kind.resolved theme spec values = fields := by
    rw [Kind.resolved, hs]
    simp only [htemplate, hfields]
    rfl
  rw [Component.render, hget, hresolved, ← hfields, ← htemplate]
  change ((s.substitute values theme).mapError Failure.fault) = _
  rw [Spec.substitute, heffective]
  rfl

theorem Json.toMapping_obj (entries : Table Json) :
    (Json.obj entries).toMapping = .ok (.obj entries) := by
  have htable : (KeyTable.ofTable entries).toTable? = some entries := by
    induction entries with
    | nil => rfl
    | cons e entries ih =>
        rw [KeyTable.toTable?] at ih
        rw [KeyTable.toTable?, KeyTable.ofTable, List.map_cons, ← KeyTable.ofTable,
          List.mapM_cons, ih]
        rfl
  change Except.ok (Json.ofKeyed (KeyTable.ofTable entries)) = .ok (.obj entries)
  rw [Json.ofKeyed, htable]

theorem Component.renderMapping_of_isBuiltIn
    (htheme : theme.HasNoTemplates) (hc : c.IsBuiltIn theme) {spec : Text}
    (hknown : c.variant.kind.knows theme spec) (values : Table Json) :
    c.renderMapping theme spec values = .ok (.obj (c.variant.kind.resolved theme spec values)) := by
  rw [Component.renderMapping, Component.render_of_isBuiltIn htheme hc hknown]
  exact congrArg (Except.mapError Failure.fault) (Json.toMapping_obj _)

namespace Step

/-- Whether a step comes to its end under the built-in templates. -/
def isKnown (k : Kind) (theme : Theme) : Step → Bool
  | json spec _ | textStyle _ spec _ _ | layout _ spec _ _ | wideLayout _ spec _ _
  | style _ spec _ _ => k.knows theme spec
  | bundle _ | side _ => true
  | stop _ => false

/-- What a step under the built-in templates makes of a component, and what it enters. -/
def outcome (theme : Theme) (c : Component) : Step → Component × Ledger
  | json spec values =>
    ({ c with json := c.variant.kind.resolved theme spec values }, .empty)
  | textStyle name spec values property =>
    (c.set property (.str name),
      .ofTextStyle name (.obj (c.variant.kind.resolved theme spec values)))
  | layout name spec values property =>
    (refer c property name, .ofLayout name (.obj (c.variant.kind.resolved theme spec values)))
  | wideLayout name spec values property =>
    (refer c property name,
      .ofLayout name (.obj (spanning theme (c.variant.kind.resolved theme spec values))))
  | style name spec values property =>
    (c.set property (.str name),
      .ofComponentStyle name (.obj (c.variant.kind.resolved theme spec values)))
  | bundle address => (c, .ofBundle address)
  | side s => ({ c with side := some s }, .empty)
  | stop _ => (c, .empty)

theorem run_of_isKnown
    (htheme : theme.HasNoTemplates) (hc : c.IsBuiltIn theme) {step : Step}
    (hknown : step.isKnown c.variant.kind theme) :
    step.run theme c = .ok (step.outcome theme c) := by
  cases step with
  | json spec values =>
      rw [run, Component.render_of_isBuiltIn htheme hc hknown]
      rfl
  | textStyle name spec values property =>
      rw [run, Component.renderMapping_of_isBuiltIn htheme hc hknown]
      rfl
  | layout name spec values property =>
      rw [run, Component.renderMapping_of_isBuiltIn htheme hc hknown]
      rfl
  | wideLayout name spec values property =>
      rw [run, Component.render_of_isBuiltIn htheme hc hknown]
      rfl
  | style name spec values property =>
      rw [run, Component.renderMapping_of_isBuiltIn htheme hc hknown]
      rfl
  | bundle address => rfl
  | side s => rfl
  | stop f => cases hknown

/-- What steps under the built-in templates make of a component, and what they enter. -/
def outcomes (theme : Theme) (c : Component) : List Step → Component × Ledger
  | [] => (c, .empty)
  | step :: steps =>
    let first := step.outcome theme c
    let rest := outcomes theme first.1 steps
    (rest.1, first.2.merge rest.2)

theorem outcome_lookup (theme : Theme) (c : Component) (step : Step) :
    (step.outcome theme c).1.variant = c.variant ∧ (step.outcome theme c).1.specs = c.specs := by
  cases step with
  | layout name spec values property =>
      rw [outcome, refer_eq]
      exact ⟨rfl, rfl⟩
  | wideLayout name spec values property =>
      rw [outcome, refer_eq]
      exact ⟨rfl, rfl⟩
  | _ => exact ⟨rfl, rfl⟩

end Step

theorem Making.steps_of_isKnown
    (htheme : theme.HasNoTemplates) (hc : c.IsBuiltIn theme) {steps : List Step}
    (hknown : steps.all (Step.isKnown c.variant.kind theme)) :
    Making.steps theme c steps =
      ⟨(Step.outcomes theme c steps).1, (Step.outcomes theme c steps).2, none⟩ := by
  induction steps generalizing c with
  | nil => rfl
  | cons step steps ih =>
      obtain ⟨hstep, hsteps⟩ := (Bool.and_eq_true _ _).mp hknown
      obtain ⟨hvariant, hspecs⟩ := Step.outcome_lookup theme c step
      have hc' : (step.outcome theme c).1.IsBuiltIn theme := by
        rw [Component.IsBuiltIn, hspecs, hvariant]
        exact hc
      rw [Making.steps_cons_of_ok (Step.run_of_isKnown htheme hc hstep),
        ih hc' (by rw [hvariant]; exact hsteps)]
      rfl

end Steps

end ArticleExport
