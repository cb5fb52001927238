import ArticleExport.Proofs.Spec.Places

/-!
# What becomes of conditions

The conditions of a variant come out as they are written, except where the object that has the
variant stands in a field of another one: there they are pruned with everything else in the
field.  A list that a variant itself has under `conditional` is no list of variants, and
conditions in it are resolved like any other value.
-/

namespace ArticleExport.Spec

variable {lookup : Text → Json}

/-- What has become of the conditions of variants in a resolved template. -/
structure CarriesConditions (lookup : Text → Json) (template resolved : Json) : Prop where
  /-- A variant that does not come out empty comes out as an entry, with its conditions unchanged,
  or pruned where its object stands in a field of a variant. -/
  carried : ∀ path inVariant object items i variant conditions,
    Reaches template path (.obj object) inVariant →
    (conditionalKey, .arr items) ∈ object → items[i]? = some (.obj variant) →
    survives lookup variant = true → (conditionsKey, conditions) ∈ variant →
    ∃ path' entry, ComesOut lookup template path (.obj object) path' inVariant ∧
      resolved.Holds
        (path' ++ [.key conditionalKey, .item (survivorsBefore lookup items i)]) (.obj entry) ∧
      Table.get? conditionsKey entry =
        (if inVariant then conditions.prune.nonempty? else some conditions) ∧
      (Table.get? conditionsKey entry = some conditions ↔
        inVariant = false ∨ conditions.prune = conditions ∧ conditions.isEmpty = false)
  /-- Conditions of other objects in a field of a variant, as in a list that the variant has under
  `conditional`, are resolved and pruned. -/
  resolved : ∀ path object conditions,
    Reaches template path (.obj object) true →
    (resolve lookup (.obj object)).prune.isEmpty = false → (conditionsKey, conditions) ∈ object →
    ∃ path' entry, ComesOut lookup template path (.obj object) path' true ∧
      resolved.Holds path' (.obj entry) ∧
      Table.get? conditionsKey entry = (resolve lookup conditions).prune.nonempty?

theorem carriesConditions_resolve {template : Json} (hproper : template.IsProper) :
    CarriesConditions lookup template (resolve lookup template) := by
  constructor
  case carried =>
    intro path inVariant object items i variant conditions hreaches hitems hvariant hs hconditions
    have hobject := hreaches.holds.isProper hproper
    obtain ⟨hdistinct, hvalues⟩ := Json.isProper_obj.mp hobject
    have hlist := Json.isProper_arr.mp (hvalues _ hitems)
    obtain ⟨hfields, -⟩ := Json.isProper_obj.mp (hlist _ (List.mem_of_getElem? hvariant))
    have hmoves := moves_entryOf hobject hitems hvariant hs
    have hentry := isEmpty_prune_entryOf hfields hs (resolveBase lookup object)
    have hwritten : Table.get? conditionsKey (entryOf lookup (resolveBase lookup object) variant) =
        some conditions := by
      rw [get?_conditions_entryOf hfields, Table.get?_of_mem hfields hconditions, Option.some_or]
    cases inVariant with
    | false =>
        obtain ⟨path', hplace, hholds⟩ :=
          hreaches.comesOut hproper (isKept_outcome_obj lookup object)
        refine ⟨path', _, hplace, hholds.trans hmoves.holds, hwritten, ?_⟩
        exact iff_of_true hwritten (.inl rfl)
    | true =>
        have hpruned := hmoves.holds_prune hentry
        have hkept : isKept true (outcome lookup true (.obj object)) = true := by
          simp [isKept, outcome, hpruned.isEmpty_eq_false hentry]
        obtain ⟨path', hplace, hholds⟩ := hreaches.comesOut hproper hkept
        have hget : Table.get? conditionsKey
            (Json.pruneEntries (entryOf lookup (resolveBase lookup object) variant)) =
              conditions.prune.nonempty? := by
          rw [Json.get?_pruneEntries (distinct_entryOf (distinct_resolveBase hdistinct) variant),
            hwritten, Option.bind_some]
        refine ⟨path', _, hplace, hholds.trans hpruned, hget, ?_⟩
        rw [hget, Json.nonempty?_eq_some]
        simp
  case resolved =>
    intro path object conditions hreaches hobject hconditions
    have hkept : isKept true (outcome lookup true (.obj object)) = true := by
      simp [isKept, outcome, hobject]
    obtain ⟨hdistinct, -⟩ := Json.isProper_obj.mp (hreaches.holds.isProper hproper)
    have hne : conditionsKey ≠ conditionalKey := by decide
    obtain ⟨path', hplace, hholds⟩ := hreaches.comesOut hproper hkept
    rw [outcome, if_pos rfl, resolve_obj] at hholds
    refine ⟨path', _, hplace, hholds, ?_⟩
    rw [Json.get?_pruneEntries (distinct_withVariants (distinct_resolveBase hdistinct) _),
      get?_withVariants_of_ne _ _ hne, get?_resolveBase hdistinct hconditions hne, resolved?]
    cases hnull : resolve lookup conditions with
    | null => rfl
    | _ => rfl

/-- Conditions come out of a template as they are written, but for those in a field of a variant. -/
theorem substitute_carries_conditions
    (s : Spec) (values : Table Json) (theme : Theme) {template : Json}
    (htemplate : s.effective theme = .ok template) (hproper : template.IsProper) :
    ∃ resolved, s.substitute values theme = .ok resolved ∧
      CarriesConditions (source (unmarked values) theme) template resolved :=
  ⟨_, substitute_of_effective htemplate values, carriesConditions_resolve hproper⟩

/-- Conditions with a placeholder and with something empty. -/
def looseConditions : Json := .obj [("size", "#body_size#"), ("scheme", .null)]

/-- An object with a variant. -/
def core : Table Json :=
  [("c", .int 2),
    ("conditional", .arr [.obj [("c", .int 3), ("conditions", looseConditions)]])]

/-- A template with a variant that has an object with a variant in a field. -/
def shell : Json := .obj [("a", .int 1),
  ("conditional", .arr [.obj [("b", .obj core), ("conditions", looseConditions)]])]

/-- A theme that brings `shell` for body text. -/
def shellTheme : Theme := ⟨"Shell", [("json_templates", .obj [("body", .obj [("json", shell)])])]⟩

theorem isProper_shell : shell.IsProper := by decide

theorem substitute_carries_conditions_of_shell :
    shell.IsProper ∧
      Reaches shell [.key "conditional", .item 0, .key "b"] (.obj core) true ∧
      ∃ resolved, (Spec.mk "body" "json" "JSON" .null).substitute [] shellTheme = .ok resolved ∧
        CarriesConditions (source (unmarked []) shellTheme) shell resolved ∧
        ∃ path' entry, resolved.Holds path' (.obj entry) ∧
          Table.get? conditionsKey entry = some (.obj [("size", "#body_size#")]) := by
  have htemplate : (Spec.mk "body" "json" "JSON" .null).effective shellTheme = .ok shell := rfl
  have hreaches : Reaches shell [.key "conditional", .item 0, .key "b"] (.obj core) true :=
    .field (.tail _ (.head _)) rfl (.head _) (by decide) (.here _)
  obtain ⟨resolved, hresolved, hcarries⟩ :=
    substitute_carries_conditions _ [] shellTheme htemplate isProper_shell
  obtain ⟨path', entry, -, hentry, hconditions, -⟩ :=
    hcarries.carried _ true core _ 0 _ looseConditions hreaches (.tail _ (.head _)) rfl
      (by decide +kernel) (.tail _ (.head _))
  exact ⟨isProper_shell, hreaches, resolved, hresolved, hcarries, _, entry, hentry, hconditions⟩

/-- Conditions of a variant in a field of another variant lose what is empty in them. -/
theorem conditions_of_core_differ :
    shell.Holds
        [.key "conditional", .item 0, .key "b", .key "conditional", .item 0, .key "conditions"]
        (.obj [("size", "#body_size#"), ("scheme", .null)]) ∧
      (Spec.mk "body" "json" "JSON" .null).substitute [] shellTheme =
        .ok (.obj [("a", .int 1), ("conditional", .arr [.obj [("a", .int 1),
          ("b", .obj [("c", .int 2), ("conditional", .arr [.obj [("c", .int 3),
            ("conditions", .obj [("size", "#body_size#")])]])]),
          ("conditions", .obj [("size", "#body_size#"), ("scheme", .null)])]])]) := by
  refine ⟨.entry (.tail _ (.head _)) (.item rfl (.entry (.head _) ?_)), rfl⟩
  exact .entry (.tail _ (.head _)) (.item rfl (.entry (.tail _ (.head _)) (.here _)))

end ArticleExport.Spec
