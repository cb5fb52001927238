import ArticleExport.Proofs.Json.Removal
import ArticleExport.Spec.Substitution

/-!
# What a resolved template depends on

Resolving a template looks up the keys of its placeholders and nothing else.  The variants
of an object come out under `conditional` only: without the entries of that name, a template
resolves to what it would resolve to without variants.
-/

namespace ArticleExport.Spec

mutual

/-- The keys of the placeholders in a template. -/
def tokens : Json → List Text
  | .str t => (token? t).toList
  | .arr items => tokensOfItems items
  | .obj entries => tokensOfEntries entries
  | _ => []

/-- The keys of the placeholders in items. -/
def tokensOfItems : List Json → List Text
  | [] => []
  | v :: vs => tokens v ++ tokensOfItems vs

/-- The keys of the placeholders in the values of entries. -/
def tokensOfEntries : List (Text × Json) → List Text
  | [] => []
  | (_, v) :: es => tokens v ++ tokensOfEntries es

end

/-- Whether a value is a list. -/
def isList : Json → Bool
  | .arr _ => true
  | _ => false

section Lookup

variable {lookup lookup' : Text → Json}

theorem isNull_resolve_obj (lookup : Text → Json) (entries : Table Json) :
    (resolve lookup (.obj entries)).isNull = false := by
  rw [resolve]
  split
  · rfl
  · rfl

/-- An entry counts unless it is the list of variants or comes out null. -/
theorem resolveBase_cons (lookup : Text → Json) (k : Text) (v : Json) (entries : Table Json) :
    resolveBase lookup ((k, v) :: entries) =
      if k = conditionalKey ∧ isList v ∨ (resolve lookup v).isNull then resolveBase lookup entries
      else (k, resolve lookup v) :: resolveBase lookup entries := by
  cases v with
  | arr items => simp only [resolveBase, isList, resolve, Json.isNull, and_true, Bool.false_eq_true,
      or_false]
  | _ => simp only [resolveBase, isList, Bool.false_eq_true, and_false, false_or]

/-! ## Lookups that agree -/

/-- Two lookups that agree on the keys of a list. -/
abbrev AgreeOn (lookup lookup' : Text → Json) (keys : List Text) : Prop :=
  ∀ key ∈ keys, lookup key = lookup' key

theorem agreeOn_append {s t : List Text} :
    AgreeOn lookup lookup' (s ++ t) ↔ AgreeOn lookup lookup' s ∧ AgreeOn lookup lookup' t :=
  List.forall_mem_append

mutual

/-- A template resolves alike by lookups that agree on the keys of its placeholders. -/
theorem resolve_congr :
    ∀ {v : Json}, AgreeOn lookup lookup' (tokens v) → resolve lookup v = resolve lookup' v
  | .null, _ | .bool _, _ | .int _, _ | .float _, _ | .keyed _, _ => rfl
  | .str t, h => by
      rw [resolve, resolve]
      cases ht : token? t with
      | none => rfl
      | some key =>
          refine h key ?_
          rw [tokens, ht]
          exact List.mem_singleton_self key
  | .arr _, h => by rw [resolve, resolve, resolveItems_congr h]
  | .obj entries, h => by
      rw [resolve, resolve]
      rw [resolveBase_congr h, resolveConditional_congr (resolveBase lookup' entries) h]

theorem resolveItems_congr :
    ∀ {items : List Json}, AgreeOn lookup lookup' (tokensOfItems items) →
      resolveItems lookup items = resolveItems lookup' items
  | [], _ => rfl
  | _ :: _, h => by
      obtain ⟨hv, hvs⟩ := agreeOn_append.mp h
      rw [resolveItems, resolveItems, resolve_congr hv, resolveItems_congr hvs]

theorem resolveBase_congr :
    ∀ {entries : List (Text × Json)}, AgreeOn lookup lookup' (tokensOfEntries entries) →
      resolveBase lookup entries = resolveBase lookup' entries
  | [], _ => rfl
  | (_, _) :: _, h => by
      obtain ⟨hv, hes⟩ := agreeOn_append.mp h
      rw [resolveBase_cons, resolveBase_cons, resolve_congr hv, resolveBase_congr hes]

theorem resolveConditional_congr (base : Table Json) :
    ∀ {entries : List (Text × Json)}, AgreeOn lookup lookup' (tokensOfEntries entries) →
      resolveConditional lookup base entries = resolveConditional lookup' base entries
  | [], _ => rfl
  | (_, .arr items) :: _, h => by
      obtain ⟨hv, hes⟩ := agreeOn_append.mp h
      rw [resolveConditional, resolveConditional, resolveVariants_congr base hv,
        resolveConditional_congr base hes]
  | (_, .null) :: _, h | (_, .bool _) :: _, h | (_, .int _) :: _, h | (_, .float _) :: _, h
  | (_, .str _) :: _, h | (_, .obj _) :: _, h | (_, .keyed _) :: _, h =>
      (resolveConditional_congr base (agreeOn_append.mp h).2 :)

theorem resolveVariants_congr (base : Table Json) :
    ∀ {variants : List Json}, AgreeOn lookup lookup' (tokensOfItems variants) →
      resolveVariants lookup base variants = resolveVariants lookup' base variants
  | [], _ => rfl
  | .obj variant :: _, h => by
      obtain ⟨hv, hvs⟩ := agreeOn_append.mp h
      rw [resolveVariants, resolveVariants, resolveFields_congr hv, resolveVariants_congr base hvs]
  | .null :: _, h | .bool _ :: _, h | .int _ :: _, h | .float _ :: _, h | .str _ :: _, h
  | .arr _ :: _, h | .keyed _ :: _, h =>
      (resolveVariants_congr base (agreeOn_append.mp h).2 :)

theorem resolveFields_congr :
    ∀ {fields : List (Text × Json)}, AgreeOn lookup lookup' (tokensOfEntries fields) →
      resolveFields lookup fields = resolveFields lookup' fields
  | [], _ => rfl
  | (_, _) :: _, h => by
      obtain ⟨hv, hes⟩ := agreeOn_append.mp h
      rw [resolveFields, resolveFields, resolve_congr hv, resolveFields_congr hes]

end

/-! ## Templates without their variants -/

theorem without_resolve_obj (lookup : Text → Json) (entries : Table Json) :
    (resolve lookup (.obj entries)).without conditionalKey =
      .obj (Json.withoutEntries conditionalKey (resolveBase lookup entries)) := by
  rw [resolve]
  split
  · rfl
  · exact congrArg Json.obj (Json.withoutEntries_set _ _)

theorem isNull_resolve_without (lookup : Text → Json) (name : Text) (v : Json) :
    (resolve lookup (v.without name)).isNull = (resolve lookup v).isNull := by
  cases v with
  | obj entries => exact (isNull_resolve_obj lookup _).trans (isNull_resolve_obj lookup _).symm
  | _ => rfl

theorem isList_without (name : Text) (v : Json) : isList (v.without name) = isList v := by
  cases v <;> rfl

mutual

/-- But for the entries under `conditional`, a template resolves as it does without them. -/
theorem without_resolve :
    ∀ v : Json, (resolve lookup v).without conditionalKey =
      (resolve lookup (v.without conditionalKey)).without conditionalKey
  | .null | .bool _ | .int _ | .float _ | .str _ => rfl
  | .keyed entries => (Json.without_without (.keyed entries)).symm
  | .arr items => by
      rw [Json.without, resolve, resolve, Json.without, Json.without, withoutItems_resolve items]
  | .obj entries => by
      rw [Json.without, without_resolve_obj, without_resolve_obj, withoutEntries_resolve entries]

theorem withoutItems_resolve :
    ∀ items : List Json, Json.withoutItems conditionalKey (resolveItems lookup items) =
      Json.withoutItems conditionalKey
        (resolveItems lookup (Json.withoutItems conditionalKey items))
  | [] => rfl
  | v :: vs => by
      rw [Json.withoutItems, resolveItems, resolveItems, isNull_resolve_without]
      split
      · exact withoutItems_resolve vs
      · rw [Json.withoutItems, Json.withoutItems, ← without_resolve v, ← withoutItems_resolve vs]

theorem withoutEntries_resolve :
    ∀ entries : List (Text × Json), Json.withoutEntries conditionalKey (resolveBase lookup entries) =
      Json.withoutEntries conditionalKey
        (resolveBase lookup (Json.withoutEntries conditionalKey entries))
  | [] => rfl
  | (k, v) :: es => by
      rw [Json.withoutEntries, resolveBase_cons]
      by_cases hk : k = conditionalKey
      · rw [if_pos hk, ← withoutEntries_resolve es]
        split
        · rfl
        · rw [Json.withoutEntries, if_pos hk]
      · rw [if_neg hk, resolveBase_cons, isNull_resolve_without, isList_without]
        split
        · exact withoutEntries_resolve es
        · rw [Json.withoutEntries, Json.withoutEntries, if_neg hk, if_neg hk, ← without_resolve v,
            ← withoutEntries_resolve es]

end

/-! ## Variants that come out empty -/

theorem pruneEntries_resolveFields_eq_nil {fields : Table Json}
    (h : ∀ e ∈ fields, e.1 = conditionsKey ∨ (resolve lookup e.2).prune.isEmpty = true) :
    Json.pruneEntries (resolveFields lookup fields) = [] := by
  induction fields with
  | nil => rfl
  | cons e es ih =>
      obtain ⟨k, v⟩ := e
      obtain ⟨hfirst, hrest⟩ := List.forall_mem_cons.mp h
      rw [resolveFields]
      split
      · exact ih hrest
      · rename_i hk
        rw [Json.pruneEntries, if_pos (hfirst.resolve_left hk)]
        exact ih hrest

theorem resolveVariants_eq_nil {variants : List Json}
    (h : ∀ fields, Json.obj fields ∈ variants → ∀ e ∈ fields,
      e.1 = conditionsKey ∨ (resolve lookup e.2).prune.isEmpty = true) (base : Table Json) :
    resolveVariants lookup base variants = [] := by
  induction variants with
  | nil => rfl
  | cons v vs ih =>
      have hrest := ih fun fields hfields => h fields (.tail _ hfields)
      cases v with
      | obj fields =>
          rw [resolveVariants, pruneEntries_resolveFields_eq_nil (h fields (.head _)), hrest]
      | _ => exact hrest

/-- An object whose variants all come out empty resolves to one without variants. -/
theorem resolve_obj_of_forall {entries : Table Json}
    (h : ∀ variants, (conditionalKey, Json.arr variants) ∈ entries → ∀ fields,
      Json.obj fields ∈ variants → ∀ e ∈ fields,
        e.1 = conditionsKey ∨ (resolve lookup e.2).prune.isEmpty = true) :
    resolve lookup (.obj entries) = .obj (resolveBase lookup entries) := by
  have hnone (base : Table Json) : resolveConditional lookup base entries = [] := by
    induction entries with
    | nil => rfl
    | cons e es ih =>
        obtain ⟨k, v⟩ := e
        have hrest := ih fun variants hvariants => h variants (.tail _ hvariants)
        cases v with
        | arr variants =>
            rw [resolveConditional]
            split
            · rename_i hk
              subst hk
              exact resolveVariants_eq_nil (h variants (.head _)) base
            · exact hrest
        | _ => exact hrest
  rw [resolve, hnone]

theorem resolve_obj_of_not_mem_names {entries : Table Json}
    (h : conditionalKey ∉ Json.namesOfEntries entries) :
    resolve lookup (.obj entries) = .obj (resolveBase lookup entries) := by
  refine resolve_obj_of_forall ?_
  intro variants hvariants
  exact absurd rfl (Json.not_mem_namesOfEntries.mp h _ hvariants).1

/-! ## Templates that bring no variants -/

mutual

/-- Names come out of a template without variants only with the values that are looked up. -/
theorem not_mem_names_resolve :
    ∀ {v : Json}, conditionalKey ∉ Json.names v →
      (∀ key ∈ tokens v, conditionalKey ∉ (lookup key).names) →
      conditionalKey ∉ (resolve lookup v).names
  | .null, h, _ | .bool _, h, _ | .int _, h, _ | .float _, h, _ | .keyed _, h, _ => h
  | .str t, h, hlookup => by
      rw [resolve]
      cases ht : token? t with
      | none => exact h
      | some key =>
          refine hlookup key ?_
          rw [tokens, ht]
          exact List.mem_singleton_self key
  | .arr _, h, hlookup => by
      rw [resolve]
      exact not_mem_namesOfItems_resolve h hlookup
  | .obj entries, h, hlookup => by
      rw [resolve_obj_of_not_mem_names h]
      exact not_mem_namesOfEntries_resolve h hlookup

theorem not_mem_namesOfItems_resolve :
    ∀ {items : List Json}, conditionalKey ∉ Json.namesOfItems items →
      (∀ key ∈ tokensOfItems items, conditionalKey ∉ (lookup key).names) →
      conditionalKey ∉ Json.namesOfItems (resolveItems lookup items)
  | [], _, _ => nofun
  | v :: vs, h, hlookup => by
      obtain ⟨hv, hvs⟩ := not_or.mp (h ∘ List.mem_append.mpr)
      obtain ⟨hfirst, hrest⟩ := List.forall_mem_append.mp hlookup
      have hmore := not_mem_namesOfItems_resolve hvs hrest
      rw [resolveItems]
      split
      · exact hmore
      · rw [Json.namesOfItems, List.mem_append]
        exact not_or_intro (not_mem_names_resolve hv hfirst) hmore

theorem not_mem_namesOfEntries_resolve :
    ∀ {entries : List (Text × Json)}, conditionalKey ∉ Json.namesOfEntries entries →
      (∀ key ∈ tokensOfEntries entries, conditionalKey ∉ (lookup key).names) →
      conditionalKey ∉ Json.namesOfEntries (resolveBase lookup entries)
  | [], _, _ => nofun
  | (k, v) :: es, h, hlookup => by
      obtain ⟨hk, hboth⟩ := not_or.mp (h ∘ List.mem_cons.mpr)
      obtain ⟨hv, hes⟩ := not_or.mp (hboth ∘ List.mem_append.mpr)
      obtain ⟨hfirst, hrest⟩ := List.forall_mem_append.mp hlookup
      have hmore := not_mem_namesOfEntries_resolve hes hrest
      rw [resolveBase_cons]
      split
      · exact hmore
      · rw [Json.namesOfEntries, List.mem_cons, List.mem_append]
        exact not_or_intro hk (not_or_intro (not_mem_names_resolve hv hfirst) hmore)

end

/-- The list of variants leaves no name behind in the rest of its object. -/
theorem not_mem_namesOfEntries_resolveBase {entries : Table Json}
    (h : ∀ e ∈ entries,
      e.1 = conditionalKey ∧ isList e.2 = true ∨ e.1 ≠ conditionalKey ∧ conditionalKey ∉ e.2.names)
    (hlookup : ∀ key, conditionalKey ∉ (lookup key).names) :
    conditionalKey ∉ Json.namesOfEntries (resolveBase lookup entries) := by
  induction entries with
  | nil => nofun
  | cons e es ih =>
      obtain ⟨k, v⟩ := e
      obtain ⟨hfirst, hrest⟩ := List.forall_mem_cons.mp h
      have hmore := ih hrest
      rw [resolveBase_cons]
      rcases hfirst with hlist | ⟨hk, hv⟩
      · rw [if_pos (.inl hlist)]
        exact hmore
      · split
        · exact hmore
        · rw [Json.namesOfEntries, List.mem_cons, List.mem_append]
          exact not_or_intro (Ne.symm hk)
            (not_or_intro (not_mem_names_resolve hv fun key _ => hlookup key) hmore)

end Lookup

/-- A spec resolves to what the template that counts resolves to. -/
theorem substitute_of_effective {s : Spec} {theme : Theme} {template : Json}
    (h : s.effective theme = .ok template) (values : Table Json) :
    s.substitute values theme = .ok (resolve (source (unmarked values) theme) template) := by
  rw [substitute, h]
  rfl

end ArticleExport.Spec
