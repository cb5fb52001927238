import ArticleExport.Proofs.Spec.Pruning
import Mathlib.Data.List.Basic

/-!
# Pruning loses nothing but what is empty

A pruned value has nothing empty in it, at any depth, so that what became empty by pruning is gone as
well and a second run finds nothing to do.  The scalars of the value that are not empty, false and zero
among them, are all there, in their order and under the same names.
-/

namespace ArticleExport.Json

/-- The values with nothing in them. -/
def emptyValues : List Json := [.null, .str [], .arr [], .obj []]

/-- No item of a list and no value of an object in a value is empty, at any depth. -/
def HasNothingEmpty (v : Json) : Prop :=
  ∀ step path part, v.Holds (step :: path) part → part ∉ emptyValues

theorem Holds.exists_first {v part : Json} {step : PathStep} {path : Path}
    (h : v.Holds (step :: path) part) : ∃ w, v.Holds [step] w ∧ w.Holds path part := by
  cases h with
  | item hv h => exact ⟨_, .item hv (.here _), h⟩
  | entry hv h => exact ⟨_, .entry hv (.here _), h⟩
  | keyed hv h => exact ⟨_, .keyed hv (.here _), h⟩

theorem not_mem_emptyValues {v : Json} (h : v.isEmpty = false) : v ∉ emptyValues := by
  have hall : ∀ w ∈ emptyValues, w.isEmpty = true := by decide
  intro hmem
  rw [hall v hmem] at h
  cases h

theorem IsProper.isEmpty_eq_false {v : Json} (h : v.IsProper) (hmem : v ∉ emptyValues) :
    v.isEmpty = false := by
  cases h with
  | null => exact absurd (by decide) hmem
  | str t =>
      cases t with
      | nil => exact absurd (by decide) hmem
      | cons _ _ => rfl
  | @arr items _ =>
      cases items with
      | nil => exact absurd (by decide) hmem
      | cons _ _ => rfl
  | @obj entries _ _ =>
      cases entries with
      | nil => exact absurd (by decide) hmem
      | cons _ _ => rfl
  | _ => rfl

/-! ## Nothing empty -/

/-- Nothing in a value is empty just if that is so of what stands in it at its first level, and of what
is in there. -/
theorem hasNothingEmpty_iff {v : Json} :
    v.HasNothingEmpty ↔
      ∀ step part, v.Holds [step] part → part ∉ emptyValues ∧ part.HasNothingEmpty := by
  constructor
  · intro h step part hpart
    exact ⟨h _ _ _ hpart, fun _ _ _ hinner => h _ _ _ (hpart.trans hinner)⟩
  · intro h step path part hpart
    obtain ⟨w, hw, hrest⟩ := hpart.exists_first
    obtain ⟨hne, hinner⟩ := h step w hw
    cases path with
    | nil =>
        cases hrest
        exact hne
    | cons next path => exact hinner next path part hrest

theorem hasNothingEmpty_arr {items : List Json} :
    (Json.arr items).HasNothingEmpty ↔ ∀ v ∈ items, v ∉ emptyValues ∧ v.HasNothingEmpty := by
  rw [hasNothingEmpty_iff]
  constructor
  · intro h v hv
    obtain ⟨i, hi⟩ := List.mem_iff_getElem?.mp hv
    exact h _ _ (.item hi (.here v))
  · intro h step part hpart
    cases hpart with
    | item hv hpart =>
        cases hpart
        exact h _ (List.mem_of_getElem? hv)

theorem hasNothingEmpty_obj {entries : Table Json} :
    (Json.obj entries).HasNothingEmpty ↔
      ∀ e ∈ entries, e.2 ∉ emptyValues ∧ e.2.HasNothingEmpty := by
  rw [hasNothingEmpty_iff]
  constructor
  · rintro h ⟨k, v⟩ he
    exact h _ _ (.entry he (.here v))
  · intro h step part hpart
    cases hpart with
    | entry hv hpart =>
        cases hpart
        exact h _ hv

theorem IsProper.hasNothingEmpty_prune {v : Json} (h : v.IsProper) : v.prune.HasNothingEmpty := by
  induction h with
  | arr _ ih =>
      rw [prune, hasNothingEmpty_arr]
      intro w hw
      obtain ⟨v, hv, rfl, hne⟩ := mem_pruneItems.mp hw
      exact ⟨not_mem_emptyValues hne, ih v hv⟩
  | obj _ _ ih =>
      rw [prune, hasNothingEmpty_obj]
      rintro ⟨k, w⟩ he
      obtain ⟨v, hv, rfl, hne⟩ := mem_pruneEntries.mp he
      exact ⟨not_mem_emptyValues hne, ih (k, v) hv⟩
  | _ =>
      intro step path part hpart
      cases hpart

/-- Where nothing is empty there is nothing to prune. -/
theorem HasNothingEmpty.prune_eq_self {v : Json} (hv : v.HasNothingEmpty) (h : v.IsProper) :
    v.prune = v := by
  induction h with
  | @arr items hitems ih =>
      rw [hasNothingEmpty_arr] at hv
      have hkept : ∀ w ∈ items, w.prune.nonempty? = some w := by
        intro w hw
        obtain ⟨hne, hrest⟩ := hv w hw
        rw [ih w hw hrest]
        exact nonempty?_of_isEmpty_eq_false ((hitems w hw).isEmpty_eq_false hne)
      rw [prune, pruneItems_eq, List.filterMap_congr hkept, List.filterMap_some]
  | @obj entries _ hvalues ih =>
      rw [hasNothingEmpty_obj] at hv
      have hkept : ∀ e ∈ entries, (e.2.prune.nonempty?.map fun v => (e.1, v)) = some e := by
        intro e he
        obtain ⟨hne, hrest⟩ := hv e he
        rw [ih e he hrest, nonempty?_of_isEmpty_eq_false ((hvalues e he).isEmpty_eq_false hne)]
        rfl
      rw [prune, pruneEntries_eq, List.filterMap_congr hkept, List.filterMap_some]
  | _ => rfl

/-! ## What is kept -/

mutual

/-- The scalars in a value that are not empty, in order, each behind the names that lead to it. -/
def leaves : Json → List (List Text × Json)
  | .arr items => leavesOfItems items
  | .obj entries => leavesOfEntries entries
  | .keyed _ => []
  | v => if v.isEmpty then [] else [([], v)]

/-- The scalars in items. -/
def leavesOfItems : List Json → List (List Text × Json)
  | [] => []
  | v :: vs => leaves v ++ leavesOfItems vs

/-- The scalars in the values of entries. -/
def leavesOfEntries : List (Text × Json) → List (List Text × Json)
  | [] => []
  | (k, v) :: es => (leaves v).map (fun leaf => (k :: leaf.1, leaf.2)) ++ leavesOfEntries es

end

theorem leaves_of_isEmpty {v : Json} (h : v.isEmpty = true) : v.leaves = [] := by
  cases v with
  | null => rfl
  | str t => exact if_pos h
  | arr items => rw [List.isEmpty_iff.mp h]; rfl
  | obj entries => rw [List.isEmpty_iff.mp h]; rfl
  | keyed _ => rfl
  | _ => cases h

mutual

/-- A value and the pruned value have the same scalars in the same places. -/
theorem leaves_prune : ∀ v : Json, v.prune.leaves = v.leaves
  | .null | .bool _ | .int _ | .float _ | .str _ | .keyed _ => rfl
  | .arr items => leavesOfItems_prune items
  | .obj entries => leavesOfEntries_prune entries

theorem leavesOfItems_prune :
    ∀ items : List Json, leavesOfItems (pruneItems items) = leavesOfItems items
  | [] => rfl
  | v :: vs => by
      rw [pruneItems, leavesOfItems, ← leaves_prune v, ← leavesOfItems_prune vs]
      split
      · rename_i hv
        rw [leaves_of_isEmpty hv, List.nil_append]
      · rfl

theorem leavesOfEntries_prune :
    ∀ entries : List (Text × Json), leavesOfEntries (pruneEntries entries) = leavesOfEntries entries
  | [] => rfl
  | (k, v) :: es => by
      rw [pruneEntries, leavesOfEntries, ← leaves_prune v, ← leavesOfEntries_prune es]
      split
      · rename_i hv
        rw [leaves_of_isEmpty hv, List.map_nil, List.nil_append]
      · rfl

end

/-- A pruned value has nothing empty in it and stays as it is when it is pruned again; just the values
with nothing empty in them stay as they are.  The scalars that are not empty are kept, in their order
and under the same names. -/
theorem prune_reaches_fixpoint {v : Json} (h : v.IsProper) :
    v.prune.HasNothingEmpty ∧ v.prune.prune = v.prune ∧ (v.prune = v ↔ v.HasNothingEmpty) ∧
      v.prune.leaves = v.leaves := by
  refine ⟨h.hasNothingEmpty_prune, prune_prune v, ?_, leaves_prune v⟩
  constructor
  · intro heq
    have hpruned := h.hasNothingEmpty_prune
    rw [heq] at hpruned
    exact hpruned
  · exact fun hv => hv.prune_eq_self h

/-- A value whose parts become empty one around the other, beside a false and a zero. -/
def husk : Json := .obj [("a", ""), ("b", .obj [("c", .arr [.null, .obj [("d", .arr [])]])]),
  ("e", .arr [.bool false, .arr [""], .obj [("f", .int 0), ("g", .null)]])]

theorem isProper_husk : husk.IsProper := by decide

theorem prune_reaches_fixpoint_of_husk :
    let kernel : Json := .obj [("e", .arr [.bool false, .obj [("f", .int 0)]])]
    let scalars : List (List Text × Json) := [(["e"], .bool false), (["e", "f"], .int 0)]
    husk.IsProper ∧ husk.prune = kernel ∧ ¬ husk.HasNothingEmpty ∧
      kernel.HasNothingEmpty ∧ kernel.prune = kernel ∧
      husk.leaves = scalars ∧ kernel.leaves = scalars := by
  intro kernel scalars
  have hkernel : husk.prune = kernel := by decide
  obtain ⟨hfull, hagain, hself, hleaves⟩ := prune_reaches_fixpoint isProper_husk
  rw [hkernel] at hfull hagain hself hleaves
  refine ⟨isProper_husk, hkernel, ?_, hfull, hagain, ?_, rfl⟩
  · intro hhusk
    exact absurd (hself.mpr hhusk) (by decide)
  · rw [← hleaves]
    rfl

end ArticleExport.Json
