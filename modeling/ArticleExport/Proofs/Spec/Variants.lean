import ArticleExport.Proofs.Spec.Pruning
import ArticleExport.Proofs.Spec.Resolution

/-!
# Objects and their variants

An object resolves to its entries, resolved one by one, and to its variants.  Which variants
come out, and what each one sets a name to, depends on the variant alone; what is left of an
object without its variants is its base.
-/

namespace ArticleExport.Spec

variable {lookup : Text → Json}

/-! ## What a variant brings -/

/-- What a variant sets a name to: the value of its field resolved and pruned, unless it is empty. -/
def ownField (lookup : Text → Json) (variant : Table Json) (k : Text) : Option Json :=
  (Table.get? k variant).bind fun v => (resolve lookup v).prune.nonempty?

/-- The fields of a variant that come out with something in them. -/
def fieldsOf (lookup : Text → Json) (variant : Table Json) : Table Json :=
  Json.pruneEntries (resolveFields lookup variant)

/-- Whether a variant has a field, besides its conditions, that comes out with something in it. -/
def survives (lookup : Text → Json) (variant : Table Json) : Bool :=
  variant.any fun e => e.1 != conditionsKey && !(resolve lookup e.2).prune.isEmpty

/-- The variant that an item of a list of variants is, unless it comes out empty. -/
def survivor? (lookup : Text → Json) : Json → Option (Table Json)
  | .obj variant => if survives lookup variant then some variant else none
  | _ => none

/-- The variants of a list that do not come out empty, in order. -/
def survivors (lookup : Text → Json) (items : List Json) : List (Table Json) :=
  items.filterMap (survivor? lookup)

theorem survivor?_eq_some {item : Json} {variant : Table Json} :
    survivor? lookup item = some variant ↔ item = .obj variant ∧ survives lookup variant = true := by
  cases item with
  | obj entries =>
      rw [survivor?, Option.ite_none_right_eq_some, Option.some.injEq, Json.obj.injEq, and_comm]
      exact and_congr_right fun h => by rw [h]
  | _ => exact ⟨nofun, nofun⟩

theorem mem_survivors {items : List Json} {variant : Table Json} :
    variant ∈ survivors lookup items ↔ .obj variant ∈ items ∧ survives lookup variant = true := by
  rw [survivors, List.mem_filterMap]
  constructor
  · rintro ⟨item, hitem, hsome⟩
    obtain ⟨rfl, hs⟩ := survivor?_eq_some.mp hsome
    exact ⟨hitem, hs⟩
  · rintro ⟨hitem, hs⟩
    exact ⟨_, hitem, survivor?_eq_some.mpr ⟨rfl, hs⟩⟩

theorem resolveFields_eq (lookup : Text → Json) (variant : Table Json) :
    resolveFields lookup variant =
      (variant.filter fun e => e.1 != conditionsKey).map fun e => (e.1, resolve lookup e.2) := by
  induction variant with
  | nil => rfl
  | cons e es ih =>
      obtain ⟨k, v⟩ := e
      rw [resolveFields, List.filter_cons, ih]
      by_cases hk : k = conditionsKey
      · simp [hk]
      · simp [hk]

theorem mem_fieldsOf {variant : Table Json} {k : Text} {w : Json} :
    (k, w) ∈ fieldsOf lookup variant ↔
      k ≠ conditionsKey ∧ ∃ v, (k, v) ∈ variant ∧ (resolve lookup v).prune = w ∧ w.isEmpty = false := by
  rw [fieldsOf, Json.mem_pruneEntries, resolveFields_eq]
  simp only [List.mem_map, List.mem_filter, bne_iff_ne, Prod.exists, Prod.mk.injEq]
  constructor
  · rintro ⟨_, ⟨l, v, ⟨hv, hl⟩, rfl, rfl⟩, hw⟩
    exact ⟨hl, v, hv, hw⟩
  · rintro ⟨hk, v, hv, hw⟩
    exact ⟨_, ⟨k, v, ⟨hv, hk⟩, rfl, rfl⟩, hw⟩

theorem fieldsOf_eq_nil_iff {variant : Table Json} :
    fieldsOf lookup variant = [] ↔ survives lookup variant = false := by
  rw [fieldsOf, resolveFields_eq, Json.pruneEntries_eq, survives, List.filterMap_eq_nil_iff]
  simp only [List.forall_mem_map, List.mem_filter, Option.map_eq_none_iff, Json.nonempty?_eq_none,
    List.any_eq_false, Bool.and_eq_true, Bool.not_eq_true', not_and, Bool.not_eq_false, and_imp]

theorem distinct_resolveFields {variant : Table Json} (h : Table.Distinct variant) :
    Table.Distinct (resolveFields lookup variant) := by
  rw [resolveFields_eq, Table.Distinct, Table.keys, List.map_map]
  exact h.sublist (List.filter_sublist.map Prod.fst)

theorem get?_resolveFields (variant : Table Json) {k : Text} (hk : k ≠ conditionsKey) :
    Table.get? k (resolveFields lookup variant) = (Table.get? k variant).map (resolve lookup) := by
  induction variant with
  | nil => rfl
  | cons e es ih =>
      obtain ⟨l, v⟩ := e
      rw [resolveFields, Table.get?_cons]
      by_cases hl : l = k
      · subst hl
        rw [if_neg hk, Table.get?_cons, if_pos rfl, if_pos rfl, Option.map_some]
      · rw [if_neg hl, ← ih]
        split
        · rfl
        · rw [Table.get?_cons, if_neg hl]

theorem get?_fieldsOf {variant : Table Json} (h : Table.Distinct variant) {k : Text}
    (hk : k ≠ conditionsKey) :
    Table.get? k (fieldsOf lookup variant) = ownField lookup variant k := by
  rw [fieldsOf, Json.get?_pruneEntries (distinct_resolveFields h), get?_resolveFields variant hk,
    ownField, Option.bind_map]
  rfl

theorem distinct_fieldsOf {variant : Table Json} (h : Table.Distinct variant) :
    Table.Distinct (fieldsOf lookup variant) := by
  have hpruned (entries : Table Json) :
      (Table.keys (Json.pruneEntries entries)).Sublist (Table.keys entries) := by
    induction entries with
    | nil => exact .slnil
    | cons e es ih =>
        rw [Json.pruneEntries]
        split
        · exact ih.cons _
        · exact ih.cons_cons _
  exact (distinct_resolveFields h).sublist (hpruned _)

/-! ## A variant over its base -/

/-- The entry that a variant comes out as. -/
def entryOf (lookup : Text → Json) (base variant : Table Json) : Table Json :=
  overlay base (fieldsOf lookup variant) variant

theorem get?_entryOf {variant : Table Json} (h : Table.Distinct variant) (base : Table Json) {k : Text}
    (hk : k ≠ conditionsKey) :
    Table.get? k (entryOf lookup base variant) =
      (ownField lookup variant k).or (Table.get? k base) := by
  have hmerged : Table.get? k (Table.update base (fieldsOf lookup variant)) =
      (ownField lookup variant k).or (Table.get? k base) := by
    rw [Table.get?_update (distinct_fieldsOf h), get?_fieldsOf h hk]
  rw [entryOf, overlay]
  split
  · rw [Table.get?_set, if_neg (Ne.symm hk), hmerged]
  · exact hmerged

/-- A field of a variant with something in it counts before the base. -/
theorem get?_entryOf_of_mem {variant : Table Json} (h : Table.Distinct variant) (base : Table Json)
    {k : Text} {v : Json} (hv : (k, v) ∈ variant) (hk : k ≠ conditionsKey)
    (hvalue : (resolve lookup v).prune.isEmpty = false) :
    Table.get? k (entryOf lookup base variant) = some (resolve lookup v).prune := by
  have hown : ownField lookup variant k = some (resolve lookup v).prune := by
    rw [ownField, Table.get?_of_mem h hv, Option.bind_some,
      Json.nonempty?_of_isEmpty_eq_false hvalue]
  rw [get?_entryOf h base hk, hown, Option.some_or]

/-- The conditions of a variant are those that are written, else those of its base. -/
theorem get?_conditions_entryOf {variant : Table Json} (h : Table.Distinct variant)
    (base : Table Json) :
    Table.get? conditionsKey (entryOf lookup base variant) =
      (Table.get? conditionsKey variant).or (Table.get? conditionsKey base) := by
  have hnone : Table.get? conditionsKey (fieldsOf lookup variant) = none := by
    refine Table.get?_eq_none_iff.mpr ?_
    intro hmem
    obtain ⟨⟨k, w⟩, he, rfl⟩ := List.mem_map.mp hmem
    exact (mem_fieldsOf.mp he).1 rfl
  rw [entryOf, overlay]
  split
  · rename_i hc
    rw [Table.get?_set, if_pos rfl, hc, Option.some_or]
  · rename_i hc
    rw [Table.get?_update (distinct_fieldsOf h), hnone, hc]

theorem distinct_entryOf {base : Table Json} (h : Table.Distinct base) (variant : Table Json) :
    Table.Distinct (entryOf lookup base variant) := by
  rw [entryOf, overlay]
  split
  · exact (h.update _).set _ _
  · exact h.update _

theorem mem_entryOf {base variant : Table Json} {k : Text} {w : Json}
    (h : (k, w) ∈ entryOf lookup base variant) :
    k = conditionsKey ∨ (k, w) ∈ base ∨ (k, w) ∈ fieldsOf lookup variant := by
  rw [entryOf, overlay] at h
  split at h
  · rcases Table.mem_set h with heq | hmem
    · exact .inl (Prod.mk.inj heq).1
    · exact .inr (Table.mem_update hmem)
  · exact .inr (Table.mem_update h)

theorem resolveVariants_eq (lookup : Text → Json) (base : Table Json) (items : List Json) :
    resolveVariants lookup base items =
      (survivors lookup items).map fun variant => .obj (entryOf lookup base variant) := by
  induction items with
  | nil => rfl
  | cons item items ih =>
      have hskip (h : survivor? lookup item = none) :
          survivors lookup (item :: items) = survivors lookup items :=
        List.filterMap_cons_none h
      cases item with
      | obj variant =>
          rw [resolveVariants]
          cases hfields : Json.pruneEntries (resolveFields lookup variant) with
          | nil =>
              have hgone := fieldsOf_eq_nil_iff.mp hfields
              rw [hskip (by rw [survivor?, hgone]; rfl), ih]
          | cons e es =>
              have hne : fieldsOf lookup variant ≠ [] := by
                rw [fieldsOf, hfields]
                nofun
              have hkept : survives lookup variant = true :=
                (Bool.not_eq_false _).mp (hne ∘ fieldsOf_eq_nil_iff.mpr)
              rw [survivors, List.filterMap_cons_some (survivor?_eq_some.mpr ⟨rfl, hkept⟩),
                List.map_cons, ih, entryOf, fieldsOf, hfields]
              rfl
      | _ => exact ih.trans (congrArg _ (hskip rfl).symm)

theorem survives_of_mem {variant : Table Json} {k : Text} {v : Json} (hv : (k, v) ∈ variant)
    (hk : k ≠ conditionsKey) (hvalue : (resolve lookup v).prune.isEmpty = false) :
    survives lookup variant = true := by
  refine List.any_eq_true.mpr ⟨(k, v), hv, ?_⟩
  simp [hk, hvalue]

/-- How many variants come out of the items before a position. -/
def survivorsBefore (lookup : Text → Json) (items : List Json) (i : Nat) : Nat :=
  (items.take i).countP fun item => (survivor? lookup item).isSome

theorem getElem?_resolveVariants {items : List Json} {i : Nat} {variant : Table Json}
    (hvariant : items[i]? = some (.obj variant)) (hs : survives lookup variant = true)
    (base : Table Json) :
    (resolveVariants lookup base items)[survivorsBefore lookup items i]? =
      some (.obj (entryOf lookup base variant)) := by
  have hplace : (survivors lookup items)[survivorsBefore lookup items i]? = some variant :=
    getElem?_filterMap (survivor? lookup) hvariant (survivor?_eq_some.mpr ⟨rfl, hs⟩)
  rw [resolveVariants_eq, List.getElem?_map, hplace, Option.map_some]

/-- An entry that a variant comes out as is not empty, nor is it once it is pruned. -/
theorem isEmpty_prune_entryOf {variant : Table Json} (hd : Table.Distinct variant)
    (hs : survives lookup variant = true) (base : Table Json) :
    (Json.obj (entryOf lookup base variant)).prune.isEmpty = false := by
  obtain ⟨⟨k, v⟩, hv, hfield⟩ := List.any_eq_true.mp hs
  simp only [Bool.and_eq_true, bne_iff_ne, Bool.not_eq_true'] at hfield
  obtain ⟨hk, hvalue⟩ := hfield
  have hget := get?_entryOf_of_mem hd base hv hk hvalue
  have hholds : (Json.obj (entryOf lookup base variant)).prune.Holds [.key k]
      (resolve lookup v).prune := by
    refine .entry (Json.mem_pruneEntries.mpr ?_) (.here _)
    exact ⟨_, Table.mem_of_get?_eq_some hget, Json.prune_prune _, hvalue⟩
  exact hholds.isEmpty_eq_false hvalue

/-! ## Objects -/

/-- The value that an item of a list comes out as, unless it is dropped. -/
def resolved? (lookup : Text → Json) (v : Json) : Option Json :=
  if (resolve lookup v).isNull then none else some (resolve lookup v)

theorem resolved?_of_isNull_eq_false {v : Json} (h : (resolve lookup v).isNull = false) :
    resolved? lookup v = some (resolve lookup v) := by
  rw [resolved?, h, if_neg nofun]

theorem resolveItems_eq (lookup : Text → Json) (items : List Json) :
    resolveItems lookup items = items.filterMap (resolved? lookup) := by
  induction items with
  | nil => rfl
  | cons v vs ih =>
      rw [resolveItems, List.filterMap_cons, ih, resolved?]
      split <;> rfl

theorem mem_resolveBase {entries : Table Json} {k : Text} {w : Json} :
    (k, w) ∈ resolveBase lookup entries ↔
      ∃ v, (k, v) ∈ entries ∧ ¬(k = conditionalKey ∧ isList v = true) ∧ resolve lookup v = w ∧
        w.isNull = false := by
  induction entries with
  | nil => simp [resolveBase]
  | cons e es ih =>
      obtain ⟨l, u⟩ := e
      simp only [resolveBase_cons, List.mem_cons, Prod.mk.injEq, or_and_right, exists_or]
      split
      · rename_i hdropped
        rw [ih]
        refine ⟨.inr, fun h => h.resolve_left ?_⟩
        rintro ⟨v, ⟨rfl, rfl⟩, hlist, rfl, hnull⟩
        rcases hdropped with h | h
        · exact hlist h
        · rw [hnull] at h
          cases h
      · rename_i hkept
        rw [List.mem_cons, ih]
        refine or_congr_left ?_
        obtain ⟨hlist, hnull⟩ := not_or.mp hkept
        constructor
        · rintro heq
          obtain ⟨rfl, rfl⟩ := Prod.mk.inj heq
          exact ⟨u, ⟨rfl, rfl⟩, hlist, rfl, Bool.eq_false_iff.mpr hnull⟩
        · rintro ⟨v, ⟨rfl, rfl⟩, -, rfl, -⟩
          rfl

theorem keys_resolveBase_sublist (lookup : Text → Json) (entries : Table Json) :
    (Table.keys (resolveBase lookup entries)).Sublist (Table.keys entries) := by
  induction entries with
  | nil => exact .slnil
  | cons e es ih =>
      obtain ⟨k, v⟩ := e
      rw [resolveBase_cons]
      split
      · exact ih.cons _
      · exact ih.cons_cons _

theorem distinct_resolveBase {entries : Table Json} (h : Table.Distinct entries) :
    Table.Distinct (resolveBase lookup entries) :=
  h.sublist (keys_resolveBase_sublist lookup entries)

theorem get?_resolveBase {entries : Table Json} (h : Table.Distinct entries) {k : Text} {v : Json}
    (hv : (k, v) ∈ entries) (hk : k ≠ conditionalKey) :
    Table.get? k (resolveBase lookup entries) = resolved? lookup v := by
  cases hnull : (resolve lookup v).isNull with
  | false =>
      rw [resolved?_of_isNull_eq_false hnull]
      refine Table.get?_of_mem (distinct_resolveBase h) ?_
      exact mem_resolveBase.mpr ⟨v, hv, fun hlist => hk hlist.1, rfl, hnull⟩
  | true =>
      rw [resolved?, if_pos hnull, Table.get?_eq_none_iff]
      intro hmem
      obtain ⟨⟨l, w⟩, he, rfl⟩ := List.mem_map.mp hmem
      obtain ⟨u, hu, -, rfl, hw⟩ := mem_resolveBase.mp he
      rw [h.eq_of_mem hv hu, hw] at hnull
      cases hnull

/-- The variants over a base, in a list of their own where there are any. -/
def withVariants (base : Table Json) : List Json → Table Json
  | [] => base
  | variants => Table.set conditionalKey (.arr variants) base

theorem withVariants_cons (base : Table Json) (variant : Json) (variants : List Json) :
    withVariants base (variant :: variants) =
      Table.set conditionalKey (.arr (variant :: variants)) base := rfl

theorem resolve_obj (lookup : Text → Json) (entries : Table Json) :
    resolve lookup (.obj entries) =
      .obj (withVariants (resolveBase lookup entries)
        (resolveConditional lookup (resolveBase lookup entries) entries)) := by
  rw [resolve]
  cases resolveConditional lookup (resolveBase lookup entries) entries <;> rfl

theorem mem_withVariants {base : Table Json} {variants : List Json} {e : Text × Json}
    (h : e ∈ withVariants base variants) : e ∈ base ∨ e = (conditionalKey, .arr variants) := by
  cases variants with
  | nil => exact .inl h
  | cons _ _ => exact (Table.mem_set h).symm

theorem distinct_withVariants {base : Table Json} (h : Table.Distinct base) (variants : List Json) :
    Table.Distinct (withVariants base variants) := by
  cases variants with
  | nil => exact h
  | cons _ _ => exact h.set _ _

theorem get?_withVariants_of_ne (base : Table Json) (variants : List Json) {k : Text}
    (hk : k ≠ conditionalKey) :
    Table.get? k (withVariants base variants) = Table.get? k base := by
  cases variants with
  | nil => rfl
  | cons _ _ => rw [withVariants_cons, Table.get?_set, if_neg (Ne.symm hk)]

theorem erase_withVariants (base : Table Json) (variants : List Json) :
    Table.erase conditionalKey (withVariants base variants) = Table.erase conditionalKey base := by
  cases variants with
  | nil => rfl
  | cons _ _ => exact Table.erase_set _ _ _

theorem mem_resolveConditional {base entries : Table Json} {w : Json}
    (h : w ∈ resolveConditional lookup base entries) :
    ∃ items, (conditionalKey, .arr items) ∈ entries ∧ w ∈ resolveVariants lookup base items := by
  induction entries with
  | nil => cases h
  | cons e es ih =>
      obtain ⟨k, v⟩ := e
      have hrest (h : w ∈ resolveConditional lookup base es) :
          ∃ items, (conditionalKey, .arr items) ∈ (k, v) :: es ∧
            w ∈ resolveVariants lookup base items := by
        obtain ⟨items, hitems, hw⟩ := ih h
        exact ⟨items, .tail _ hitems, hw⟩
      cases v with
      | arr items =>
          rw [resolveConditional] at h
          split at h
          · rename_i hk
            subst hk
            exact ⟨items, .head _, h⟩
          · exact hrest h
      | _ => exact hrest h

theorem resolveConditional_eq_nil {entries : Table Json}
    (h : ∀ items, (conditionalKey, Json.arr items) ∉ entries) (base : Table Json) :
    resolveConditional lookup base entries = [] := by
  refine List.eq_nil_iff_forall_not_mem.mpr ?_
  intro w hw
  obtain ⟨items, hitems, -⟩ := mem_resolveConditional hw
  exact h items hitems

theorem resolveConditional_of_mem {entries : Table Json} (h : Table.Distinct entries)
    {items : List Json} (hitems : (conditionalKey, .arr items) ∈ entries) (base : Table Json) :
    resolveConditional lookup base entries = resolveVariants lookup base items := by
  induction entries with
  | nil => cases hitems
  | cons e es ih =>
      obtain ⟨k, v⟩ := e
      obtain ⟨hk, hes⟩ : k ∉ Table.keys es ∧ Table.Distinct es := List.nodup_cons.mp h
      rcases List.mem_cons.mp hitems with heq | hmem
      · obtain ⟨rfl, rfl⟩ := Prod.mk.inj heq
        rw [resolveConditional, if_pos rfl]
      · have hne : k ≠ conditionalKey := by
          rintro rfl
          exact hk (List.mem_map_of_mem hmem)
        have hrest := ih hes hmem
        cases v with
        | arr _ => rw [resolveConditional, if_neg hne, hrest]
        | _ => exact hrest

/-- An entry other than the list of variants stands, resolved, in the resolved object. -/
theorem mem_resolve_obj {entries : Table Json} (h : Table.Distinct entries) {k : Text} {v : Json}
    (hv : (k, v) ∈ entries) (hk : k = conditionalKey → isList v = false)
    (hnull : (resolve lookup v).isNull = false) :
    (k, resolve lookup v) ∈ withVariants (resolveBase lookup entries)
      (resolveConditional lookup (resolveBase lookup entries) entries) := by
  have hbase : (k, resolve lookup v) ∈ resolveBase lookup entries := by
    refine mem_resolveBase.mpr ⟨v, hv, ?_, rfl, hnull⟩
    rintro ⟨hname, hlist⟩
    rw [hk hname] at hlist
    cases hlist
  by_cases hname : k = conditionalKey
  · subst hname
    have hnone : ∀ items, (conditionalKey, Json.arr items) ∉ entries := by
      intro items hitems
      have hlist := hk rfl
      rw [h.eq_of_mem hv hitems] at hlist
      cases hlist
    rw [resolveConditional_eq_nil hnone]
    exact hbase
  · refine Table.mem_of_get?_eq_some ?_
    rw [get?_withVariants_of_ne _ _ hname]
    exact Table.get?_of_mem (distinct_resolveBase h) hbase

theorem mem_variants_resolve_obj {entries : Table Json} (h : Table.Distinct entries) {items : List Json}
    (hitems : (conditionalKey, .arr items) ∈ entries)
    (hne : resolveVariants lookup (resolveBase lookup entries) items ≠ []) :
    (conditionalKey, Json.arr (resolveVariants lookup (resolveBase lookup entries) items)) ∈
      withVariants (resolveBase lookup entries)
        (resolveConditional lookup (resolveBase lookup entries) entries) := by
  rw [resolveConditional_of_mem h hitems]
  refine Table.mem_of_get?_eq_some ?_
  cases hall : resolveVariants lookup (resolveBase lookup entries) items with
  | nil => exact absurd hall hne
  | cons _ _ => rw [withVariants_cons, Table.get?_set, if_pos rfl]

/-- A variant that survives comes out, over the base, behind those that survive before it; pruning
leaves it there. -/
theorem moves_entryOf {entries : Table Json} (h : (Json.obj entries).IsProper) {items : List Json}
    (hitems : (conditionalKey, .arr items) ∈ entries) {i : Nat} {variant : Table Json}
    (hvariant : items[i]? = some (.obj variant)) (hs : survives lookup variant = true) :
    (resolve lookup (.obj entries)).Moves
      [.key conditionalKey, .item (survivorsBefore lookup items i)]
      (.obj (entryOf lookup (resolveBase lookup entries) variant))
      [.key conditionalKey, .item (survivorsBefore lookup items i)] := by
  obtain ⟨hdistinct, hvalues⟩ := Json.isProper_obj.mp h
  have hentry := getElem?_resolveVariants hvariant hs (resolveBase lookup entries)
  -- No entry of a variant is empty, so that pruning drops none of those before this one.
  have hkept : ∀ w ∈ resolveVariants lookup (resolveBase lookup entries) items,
      w.prune.nonempty?.isSome = true := by
    rw [resolveVariants_eq, List.forall_mem_map]
    intro other hother
    obtain ⟨hitem, hother⟩ := mem_survivors.mp hother
    have hproper := Json.isProper_arr.mp (hvalues _ hitems) _ hitem
    rw [Json.nonempty?_of_isEmpty_eq_false
      (isEmpty_prune_entryOf (Json.isProper_obj.mp hproper).1 hother _)]
    rfl
  have hitem := Json.Moves.item hentry (.here _)
  have hne : resolveVariants lookup (resolveBase lookup entries) items ≠ [] :=
    List.ne_nil_of_mem (List.mem_of_getElem? hentry)
  rw [countP_take_of_forall hkept hentry] at hitem
  rw [resolve_obj]
  exact .entry (mem_variants_resolve_obj hdistinct hitems hne) hitem

end ArticleExport.Spec
