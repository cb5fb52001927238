import ArticleExport.Proofs.Json.Paths
import ArticleExport.Proofs.Table
import ArticleExport.Spec.Pruning

/-!
# What pruning leaves

A pruned list or object holds its items or entries, each pruned, without the empty ones.  So
a part that is not empty once pruned is found again under the same keys, behind as many items
as were kept before it.
-/

namespace ArticleExport.Json

/-- The value, unless it is empty. -/
def nonempty? (v : Json) : Option Json := if v.isEmpty then none else some v

theorem nonempty?_eq_some {v w : Json} : v.nonempty? = some w ↔ v = w ∧ w.isEmpty = false := by
  rw [nonempty?]
  split
  · rename_i h
    refine ⟨nofun, ?_⟩
    rintro ⟨rfl, hw⟩
    rw [h] at hw
    cases hw
  · rename_i h
    refine ⟨?_, fun hw => congrArg some hw.1⟩
    rintro ⟨rfl⟩
    exact ⟨rfl, Bool.eq_false_iff.mpr h⟩

theorem nonempty?_of_isEmpty_eq_false {v : Json} (h : v.isEmpty = false) : v.nonempty? = some v :=
  nonempty?_eq_some.mpr ⟨rfl, h⟩

theorem nonempty?_eq_none {v : Json} : v.nonempty? = none ↔ v.isEmpty = true := by
  rw [nonempty?]
  split <;> simp_all

theorem pruneItems_eq (items : List Json) :
    pruneItems items = items.filterMap fun v => v.prune.nonempty? := by
  induction items with
  | nil => rfl
  | cons v vs ih =>
      rw [pruneItems, List.filterMap_cons, ih, nonempty?]
      split <;> rfl

theorem pruneEntries_eq (entries : Table Json) :
    pruneEntries entries = entries.filterMap fun e => e.2.prune.nonempty?.map fun v => (e.1, v) := by
  induction entries with
  | nil => rfl
  | cons e es ih =>
      obtain ⟨k, v⟩ := e
      rw [pruneEntries, List.filterMap_cons, ih, nonempty?]
      split <;> rfl

theorem mem_pruneItems {items : List Json} {w : Json} :
    w ∈ pruneItems items ↔ ∃ v ∈ items, v.prune = w ∧ w.isEmpty = false := by
  simp only [pruneItems_eq, List.mem_filterMap, nonempty?_eq_some]

theorem mem_pruneEntries {entries : Table Json} {k : Text} {w : Json} :
    (k, w) ∈ pruneEntries entries ↔ ∃ v, (k, v) ∈ entries ∧ v.prune = w ∧ w.isEmpty = false := by
  simp only [pruneEntries_eq, List.mem_filterMap, Option.map_eq_some_iff, nonempty?_eq_some,
    Prod.exists, Prod.mk.injEq]
  constructor
  · rintro ⟨k, v, hv, w, hw, rfl, rfl⟩
    exact ⟨v, hv, hw⟩
  · rintro ⟨v, hv, hw⟩
    exact ⟨k, v, hv, w, hw, rfl, rfl⟩

/-- In an object whose names are distinct, each name is pruned by itself. -/
theorem get?_pruneEntries {entries : Table Json} (h : Table.Distinct entries) (k : Text) :
    Table.get? k (pruneEntries entries) =
      (Table.get? k entries).bind fun v => v.prune.nonempty? := by
  induction entries with
  | nil => rfl
  | cons e es ih =>
      obtain ⟨l, v⟩ := e
      obtain ⟨hl, hes⟩ : l ∉ Table.keys es ∧ Table.Distinct es := List.nodup_cons.mp h
      rw [pruneEntries, Table.get?_cons]
      by_cases hk : l = k
      · subst hk
        rw [if_pos rfl, Option.bind_some, nonempty?]
        split
        · rw [ih hes, Table.get?_eq_none_iff.mpr hl, Option.bind_none]
        · exact if_pos rfl
      · rw [if_neg hk, ← ih hes]
        split
        · rfl
        · exact if_neg hk

/-! ## Pruning twice -/

mutual

/-- What is pruned has nothing in it to prune. -/
theorem prune_prune : ∀ v : Json, v.prune.prune = v.prune
  | .null | .bool _ | .int _ | .float _ | .str _ | .keyed _ => rfl
  | .arr items => congrArg arr (pruneItems_pruneItems items)
  | .obj entries => congrArg obj (pruneEntries_pruneEntries entries)

theorem pruneItems_pruneItems :
    ∀ items : List Json, pruneItems (pruneItems items) = pruneItems items
  | [] => rfl
  | v :: vs => by
      rw [pruneItems]
      split
      · exact pruneItems_pruneItems vs
      · rename_i hv
        rw [pruneItems, prune_prune v, if_neg hv, pruneItems_pruneItems vs]

theorem pruneEntries_pruneEntries :
    ∀ entries : List (Text × Json), pruneEntries (pruneEntries entries) = pruneEntries entries
  | [] => rfl
  | (k, v) :: es => by
      rw [pruneEntries]
      split
      · exact pruneEntries_pruneEntries es
      · rename_i hv
        rw [pruneEntries, prune_prune v, if_neg hv, pruneEntries_pruneEntries es]

end

/-! ## Where parts stand in a pruned value -/

/-- A part of a value, and where it stands once the value is pruned. -/
inductive Moves : Json → Path → Json → Path → Prop where
  | here (v : Json) : Moves v [] v []
  | item {items : List Json} {i : Nat} {v part : Json} {path path' : Path}
      (hv : items[i]? = some v) (h : Moves v path part path') :
      Moves (.arr items) (.item i :: path) part
        (.item ((items.take i).countP fun v => v.prune.nonempty?.isSome) :: path')
  | entry {entries : List (Text × Json)} {k : Text} {v part : Json} {path path' : Path}
      (hv : (k, v) ∈ entries) (h : Moves v path part path') :
      Moves (.obj entries) (.key k :: path) part (.key k :: path')

theorem Moves.holds {v part : Json} {path path' : Path} (h : Moves v path part path') :
    v.Holds path part := by
  induction h with
  | here v => exact .here v
  | item hv _ ih => exact .item hv ih
  | entry hv _ ih => exact .entry hv ih

theorem Moves.keys_eq {v part : Json} {path path' : Path} (h : Moves v path part path') :
    path'.keys = path.keys := by
  induction h with
  | here _ => rfl
  | item _ _ ih => exact congrArg (List.cons none) ih
  | @entry _ k _ _ _ _ _ _ ih => exact congrArg (List.cons (some (Key.text k))) ih

/-- Every part of a value of JSON has a place in the pruned value, if it is not pruned itself. -/
theorem Holds.exists_moves {v part : Json} {path : Path} (h : v.Holds path part) (hv : v.IsProper) :
    ∃ path', Moves v path part path' := by
  induction h with
  | here v => exact ⟨[], .here v⟩
  | item hmem _ ih =>
      obtain ⟨path', hmoves⟩ := ih (isProper_arr.mp hv _ (List.mem_of_getElem? hmem))
      exact ⟨_, .item hmem hmoves⟩
  | entry hmem _ ih =>
      obtain ⟨path', hmoves⟩ := ih ((isProper_obj.mp hv).2 _ hmem)
      exact ⟨_, .entry hmem hmoves⟩
  | keyed _ _ _ => cases hv

/-- A part that is not empty once pruned stands in the pruned value. -/
theorem Moves.holds_prune {v part : Json} {path path' : Path} (h : Moves v path part path')
    (hpart : part.prune.isEmpty = false) : v.prune.Holds path' part.prune := by
  induction h with
  | here v => exact .here v.prune
  | @item items i v part path path' hv _ ih =>
      have hrest := ih hpart
      have hkept : v.prune.nonempty? = some v.prune :=
        nonempty?_of_isEmpty_eq_false (hrest.isEmpty_eq_false hpart)
      rw [prune, pruneItems_eq]
      exact .item (getElem?_filterMap (fun v : Json => v.prune.nonempty?) hv hkept) hrest
  | @entry entries k v part path path' hv _ ih =>
      have hrest := ih hpart
      rw [prune]
      exact .entry (mem_pruneEntries.mpr ⟨v, hv, rfl, hrest.isEmpty_eq_false hpart⟩) hrest

theorem Moves.trans {v w part : Json} {p p' q q' : Path} (h : Moves v p w p') (hw : Moves w q part q') :
    Moves v (p ++ q) part (p' ++ q') := by
  induction h with
  | here _ => exact hw
  | item hv _ ih => exact .item hv (ih hw)
  | entry hv _ ih => exact .entry hv (ih hw)

/-- A part that has moved in a pruned value stays there when the value is pruned again. -/
theorem Moves.of_prune {v part : Json} {path path' : Path} (h : Moves v path part path')
    (hpart : part.prune.isEmpty = false) : Moves v.prune path' part.prune path' := by
  induction h with
  | here v => exact .here v.prune
  | @item items i v part path path' hv hmoves ih =>
      have hkept : v.prune.nonempty? = some v.prune :=
        nonempty?_of_isEmpty_eq_false ((hmoves.holds_prune hpart).isEmpty_eq_false hpart)
      have hplace := getElem?_filterMap (fun v : Json => v.prune.nonempty?) hv hkept
      have hall : ∀ w ∈ items.filterMap fun v => v.prune.nonempty?, w.prune.nonempty?.isSome = true := by
        intro w hw
        obtain ⟨u, -, hu⟩ := List.mem_filterMap.mp hw
        obtain ⟨rfl, hne⟩ := nonempty?_eq_some.mp hu
        rw [prune_prune, nonempty?_of_isEmpty_eq_false hne]
        rfl
      have hitem := Moves.item hplace (ih hpart)
      rw [countP_take_of_forall hall hplace] at hitem
      rw [prune, pruneItems_eq]
      exact hitem
  | @entry entries k v part path path' hv hmoves ih =>
      rw [prune]
      exact .entry (mem_pruneEntries.mpr
        ⟨v, hv, rfl, (hmoves.holds_prune hpart).isEmpty_eq_false hpart⟩) (ih hpart)

/-- What stands in a pruned value stood in the value, pruned or not, under the same keys. -/
theorem Holds.of_prune {v part : Json} {path : Path} (h : v.prune.Holds path part) :
    ∃ path' part', v.Holds path' part' ∧ path'.keys = path.keys ∧
      (part = part' ∨ part = part'.prune) := by
  induction path generalizing v with
  | nil =>
      generalize hpruned : v.prune = w at h
      cases h with
      | here _ => exact ⟨[], v, .here v, rfl, .inr hpruned.symm⟩
  | cons step path ih =>
      cases v with
      | arr items =>
          rw [prune] at h
          cases h with
          | item hv h =>
              obtain ⟨u, hu, rfl, -⟩ := mem_pruneItems.mp (List.mem_of_getElem? hv)
              obtain ⟨i, hi⟩ := List.mem_iff_getElem?.mp hu
              obtain ⟨path', part', hpart, hkeys, hsame⟩ := ih h
              exact ⟨.item i :: path', part', .item hi hpart, congrArg (List.cons none) hkeys, hsame⟩
      | obj entries =>
          rw [prune] at h
          cases h with
          | @entry _ k _ _ _ hv h =>
              obtain ⟨u, hu, rfl, -⟩ := mem_pruneEntries.mp hv
              obtain ⟨path', part', hpart, hkeys, hsame⟩ := ih h
              exact ⟨.key k :: path', part', .entry hu hpart,
                congrArg (List.cons (some (Key.text k))) hkeys, hsame⟩
      | keyed entries => exact ⟨_, part, h, rfl, .inl rfl⟩
      | _ => cases h

end ArticleExport.Json
