import ArticleExport.Proofs.Spec.Places
import Mathlib.Data.List.Forall2

/-!
# Variants are merged over their base

An object with a list of variants resolves to its base, which the variants do not touch, and
to one entry for each variant that comes out with something in it.  An entry is the base with
the fields of its variant set over it; no other variant has a part in it.
-/

namespace ArticleExport.Spec

variable {lookup : Text → Json} {object : Table Json} {items : List Json}

/-! ## The base -/

/-- Where only a list of variants stands under its name, the base is that of the other entries. -/
theorem resolveBase_erase (h : ∀ e ∈ object, e.1 = conditionalKey → isList e.2 = true) :
    resolveBase lookup (Table.erase conditionalKey object) = resolveBase lookup object := by
  induction object with
  | nil => rfl
  | cons e es ih =>
      obtain ⟨k, v⟩ := e
      obtain ⟨hfirst, hrest⟩ := List.forall_mem_cons.mp h
      rw [resolveBase_cons]
      by_cases hk : k = conditionalKey
      · rw [if_pos (.inl ⟨hk, hfirst hk⟩), ← ih hrest, Table.erase, List.filter_cons_of_neg (by simpa)]
        rfl
      · rw [Table.erase, List.filter_cons_of_pos (by simpa), resolveBase_cons]
        split
        · exact ih hrest
        · exact congrArg _ (ih hrest)

theorem isList_of_mem (h : Table.Distinct object) (hitems : (conditionalKey, .arr items) ∈ object) :
    ∀ e ∈ object, e.1 = conditionalKey → isList e.2 = true := by
  rintro ⟨k, v⟩ he rfl
  rw [h.eq_of_mem he hitems]
  rfl

/-- The base of an object is what the object resolves to without its variants. -/
theorem resolve_erase (h : Table.Distinct object) (hitems : (conditionalKey, .arr items) ∈ object) :
    resolve lookup (.obj (Table.erase conditionalKey object)) = .obj (resolveBase lookup object) := by
  have hnone : ∀ others, (conditionalKey, Json.arr others) ∉ Table.erase conditionalKey object :=
    fun others hmem => Table.not_mem_keys_erase conditionalKey object (List.mem_map_of_mem hmem)
  rw [resolve_obj, resolveConditional_eq_nil hnone, resolveBase_erase (isList_of_mem h hitems)]
  rfl

theorem not_mem_keys_resolveBase (h : Table.Distinct object)
    (hitems : (conditionalKey, .arr items) ∈ object) :
    conditionalKey ∉ Table.keys (resolveBase lookup object) := by
  intro hmem
  obtain ⟨⟨k, w⟩, he, rfl⟩ := List.mem_map.mp hmem
  obtain ⟨v, hv, hlist, -⟩ := mem_resolveBase.mp he
  exact hlist ⟨rfl, isList_of_mem h hitems _ hv rfl⟩

/-! ## The entries -/

/-- The entries that a list of variants comes out as. -/
def entriesOf (lookup : Text → Json) (object : Table Json) (items : List Json) : List (Table Json) :=
  (survivors lookup items).map (entryOf lookup (resolveBase lookup object))

/-- The list of an object's variants comes out as their entries, or not at all where there are none. -/
theorem get?_conditional (h : Table.Distinct object) (hitems : (conditionalKey, .arr items) ∈ object) :
    (resolve lookup (.obj object)).field? conditionalKey =
      if entriesOf lookup object items = [] then none
      else some (.arr ((entriesOf lookup object items).map .obj)) := by
  have hvariants : resolveVariants lookup (resolveBase lookup object) items =
      (entriesOf lookup object items).map .obj := by
    rw [resolveVariants_eq, entriesOf, List.map_map]
    rfl
  rw [resolve_obj, resolveConditional_of_mem h hitems, hvariants, Json.field?]
  cases entriesOf lookup object items with
  | nil => exact Table.get?_eq_none_iff.mpr (not_mem_keys_resolveBase h hitems)
  | cons first others =>
      rw [List.map_cons, withVariants_cons, Table.get?_set, if_pos rfl,
        if_neg (List.cons_ne_nil _ _)]

/-- An entry is what comes out of a variant of an object over a base. -/
structure IsMerged (lookup : Text → Json) (object base variant entry : Table Json) : Prop where
  /-- The conditions apart, a name has the value of the variant's field, resolved and pruned, where
  that is not empty, and the base's value otherwise. -/
  fields : ∀ k, k ≠ conditionsKey →
    Table.get? k entry = (ownField lookup variant k).or (Table.get? k base)
  /-- The conditions are the variant's as they are written, where it has any. -/
  conditions : Table.get? conditionsKey entry =
    (Table.get? conditionsKey variant).or (Table.get? conditionsKey base)
  /-- The same entry comes out where the object has no other variant. -/
  alone : (resolve lookup (.obj (Table.set conditionalKey (.arr [.obj variant]) object))).field?
    conditionalKey = some (.arr [.obj entry])

/-- A resolved object is the base of an object with its variants merged over it. -/
structure MergesVariants (lookup : Text → Json) (object : Table Json) (items : List Json)
    (resolved : Table Json) : Prop where
  /-- Without the variants it is what the object without them resolves to. -/
  base : resolve lookup (.obj (Table.erase conditionalKey object)) =
    .obj (Table.erase conditionalKey resolved)
  /-- It has one entry for each variant that comes out with something in it, in their order. -/
  merged : ∃ entries : List (Table Json),
    List.Forall₂ (IsMerged lookup object (Table.erase conditionalKey resolved))
      (survivors lookup items) entries ∧
    Table.get? conditionalKey resolved =
      if entries = [] then none else some (.arr (entries.map .obj))

theorem entryOf_isMerged (h : Table.Distinct object)
    (hitems : (conditionalKey, .arr items) ∈ object) {variant : Table Json}
    (hvariant : Table.Distinct variant) (hs : survives lookup variant = true) :
    IsMerged lookup object (resolveBase lookup object) variant
      (entryOf lookup (resolveBase lookup object) variant) := by
  refine ⟨fun k hk => get?_entryOf hvariant _ hk, get?_conditions_entryOf hvariant _, ?_⟩
  have hdistinct : Table.Distinct (Table.set conditionalKey (.arr [.obj variant]) object) := h.set _ _
  have hmem : (conditionalKey, Json.arr [.obj variant]) ∈
      Table.set conditionalKey (.arr [.obj variant]) object :=
    Table.mem_of_get?_eq_some (by rw [Table.get?_set, if_pos rfl])
  -- Another list of variants leaves the base as it is.
  have hbase : resolveBase lookup (Table.set conditionalKey (.arr [.obj variant]) object) =
      resolveBase lookup object := by
    rw [← resolveBase_erase (isList_of_mem hdistinct hmem), Table.erase_set,
      resolveBase_erase (isList_of_mem h hitems)]
  have hentries : entriesOf lookup (Table.set conditionalKey (.arr [.obj variant]) object)
      [.obj variant] = [entryOf lookup (resolveBase lookup object) variant] := by
    rw [entriesOf, hbase, survivors,
      List.filterMap_cons_some (survivor?_eq_some.mpr ⟨rfl, hs⟩)]
    rfl
  rw [get?_conditional hdistinct hmem, hentries, if_neg (List.cons_ne_nil _ _)]
  rfl

theorem resolve_mergesVariants (h : (Json.obj object).IsProper)
    (hitems : (conditionalKey, .arr items) ∈ object) :
    ∃ resolved, resolve lookup (.obj object) = .obj resolved ∧
      MergesVariants lookup object items resolved := by
  obtain ⟨hdistinct, hvalues⟩ := Json.isProper_obj.mp h
  have hbase : Table.erase conditionalKey (withVariants (resolveBase lookup object)
      (resolveConditional lookup (resolveBase lookup object) object)) = resolveBase lookup object := by
    rw [erase_withVariants, Table.erase_of_not_mem (not_mem_keys_resolveBase hdistinct hitems)]
  have hconditional : (resolve lookup (.obj object)).field? conditionalKey = _ :=
    get?_conditional hdistinct hitems
  rw [resolve_obj] at hconditional
  refine ⟨_, resolve_obj lookup object, ?_, entriesOf lookup object items, ?_, hconditional⟩
  · rw [hbase, resolve_erase hdistinct hitems]
  · rw [hbase, entriesOf, List.forall₂_map_right_iff, List.forall₂_same]
    intro variant hmem
    obtain ⟨hitem, hs⟩ := mem_survivors.mp hmem
    have hproper := Json.isProper_arr.mp (hvalues _ hitems) _ hitem
    exact entryOf_isMerged hdistinct hitems (Json.isProper_obj.mp hproper).1 hs

/-- At every object of a template with a list of variants that is not inside of a variant itself,
the variants are merged over the base and leave it alone. -/
theorem substitute_merges_variants
    (s : Spec) (values : Table Json) (theme : Theme) {template : Json}
    (htemplate : s.effective theme = .ok template) (hproper : template.IsProper) :
    ∃ resolved, s.substitute values theme = .ok resolved ∧
      ∀ path object items, Reaches template path (.obj object) false →
        (conditionalKey, .arr items) ∈ object →
        ∃ path' r, ComesOut (source (unmarked values) theme) template path (.obj object) path' false ∧
          resolved.Holds path' (.obj r) ∧
          MergesVariants (source (unmarked values) theme) object items r := by
  refine ⟨_, substitute_of_effective htemplate values, ?_⟩
  intro path object items hreaches hitems
  obtain ⟨r, hr, hmerges⟩ := resolve_mergesVariants (hreaches.holds.isProper hproper) hitems
  obtain ⟨path', hplace, hholds⟩ := hreaches.comesOut hproper (isKept_outcome_obj _ object)
  rw [outcome, if_neg Bool.false_ne_true, hr] at hholds
  exact ⟨path', r, hplace, hholds, hmerges⟩

/-- Variants of which the first one comes out empty and the second one is none. -/
def patchVariants : List Json :=
  [.obj [("tone", "#missing#"), ("frame", .arr [""]), ("conditions", .obj [("version", "2")])], "none",
    .obj [("tone", ""), ("frame", .obj [("width", .int 2), ("style", "")]),
      ("conditions", .obj [("scheme", .null)])],
    .obj [("tone", "#dark#")]]

/-- An object with variants. -/
def patch : Table Json :=
  [("tone", "#tone#"), ("frame", .obj [("width", .int 1)]), ("conditional", .arr patchVariants)]

/-- A template with an object with variants in a list. -/
def quilt : Json := .obj [("parts", .arr ["#missing#", .obj patch])]

/-- Values for the placeholders of `quilt`. -/
def quiltValues : Table Json := [("tone", "red"), ("#dark#", "black"), ("missing", .null)]

/-- A theme that brings `quilt` for body text. -/
def quiltTheme : Theme := ⟨"Quilt", [("json_templates", .obj [("body", .obj [("json", quilt)])])]⟩

theorem isProper_quilt : quilt.IsProper := by decide

theorem substitute_merges_variants_of_quilt :
    quilt.IsProper ∧ Reaches quilt [.key "parts", .item 1] (.obj patch) false ∧
      ∃ resolved,
        (Spec.mk "body" "json" "JSON" .null).substitute quiltValues quiltTheme = .ok resolved ∧
        ∃ path' r, ComesOut (source (unmarked quiltValues) quiltTheme) quilt [.key "parts", .item 1]
            (.obj patch) path' false ∧
          resolved.Holds path' (.obj r) ∧
          MergesVariants (source (unmarked quiltValues) quiltTheme) patch patchVariants r := by
  have htemplate : (Spec.mk "body" "json" "JSON" .null).effective quiltTheme = .ok quilt := rfl
  have hreaches : Reaches quilt [.key "parts", .item 1] (.obj patch) false :=
    .entry (.head _) (fun h => absurd h (by decide)) (.item rfl (.here _))
  obtain ⟨resolved, hresolved, hmerges⟩ :=
    substitute_merges_variants _ quiltValues quiltTheme htemplate isProper_quilt
  exact ⟨isProper_quilt, hreaches, resolved, hresolved,
    hmerges _ patch patchVariants hreaches (.tail _ (.tail _ (.head _)))⟩

end ArticleExport.Spec
