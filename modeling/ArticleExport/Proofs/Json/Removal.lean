import ArticleExport.Json.Basic
import Mathlib.Tactic.Common

/-!
# Values without a name

All entries of a name are taken out of a value, at any depth, and everything else stays in
its place.  A value from which nothing is taken is one in which the name does not occur.
-/

namespace ArticleExport.Json

mutual

/-- The value without the entries of a name, at any depth. -/
def without (name : Text) : Json → Json
  | .arr items => .arr (withoutItems name items)
  | .obj entries => .obj (withoutEntries name entries)
  | .keyed entries => .keyed (withoutKeyed name entries)
  | v => v

/-- The items without the entries of a name. -/
def withoutItems (name : Text) : List Json → List Json
  | [] => []
  | v :: vs => without name v :: withoutItems name vs

/-- The entries of other names, without those of a name in them. -/
def withoutEntries (name : Text) : List (Text × Json) → List (Text × Json)
  | [] => []
  | (k, v) :: es =>
    if k = name then withoutEntries name es else (k, without name v) :: withoutEntries name es

/-- The entries of other keys, without those of a name in them. -/
def withoutKeyed (name : Text) : List (Key × Json) → List (Key × Json)
  | [] => []
  | (k, v) :: es =>
    if k = .text name then withoutKeyed name es else (k, without name v) :: withoutKeyed name es

end

mutual

/-- The names of the objects in a value, at any depth. -/
def names : Json → List Text
  | .arr items => namesOfItems items
  | .obj entries => namesOfEntries entries
  | .keyed entries => namesOfKeyed entries
  | _ => []

/-- The names in items. -/
def namesOfItems : List Json → List Text
  | [] => []
  | v :: vs => names v ++ namesOfItems vs

/-- The names of entries, and the names in them. -/
def namesOfEntries : List (Text × Json) → List Text
  | [] => []
  | (k, v) :: es => k :: (names v ++ namesOfEntries es)

/-- The keys of entries that are names, and the names in them. -/
def namesOfKeyed : List (Key × Json) → List Text
  | [] => []
  | (k, v) :: es => k.text?.toList ++ (names v ++ namesOfKeyed es)

end

variable {name : Text}

/-! ## Where a name occurs -/

theorem mem_namesOfItems {items : List Json} :
    name ∈ namesOfItems items ↔ ∃ v ∈ items, name ∈ names v := by
  induction items with
  | nil => simp [namesOfItems]
  | cons v vs ih => simp [namesOfItems, ih]

theorem mem_namesOfEntries {entries : Table Json} :
    name ∈ namesOfEntries entries ↔ ∃ e ∈ entries, e.1 = name ∨ name ∈ names e.2 := by
  induction entries with
  | nil => simp [namesOfEntries]
  | cons e es ih =>
      obtain ⟨k, v⟩ := e
      simp only [namesOfEntries, List.mem_cons, List.mem_append, ih, or_and_right, exists_or,
        exists_eq_left, or_assoc]
      exact or_congr_left eq_comm

/-- A name that does not occur in a table is no name of it, and occurs in none of its values. -/
theorem not_mem_namesOfEntries {entries : Table Json} :
    name ∉ namesOfEntries entries ↔ ∀ e ∈ entries, e.1 ≠ name ∧ name ∉ names e.2 := by
  rw [mem_namesOfEntries]
  push Not
  rfl

/-! ## What is left -/

mutual

theorem without_of_not_mem_names : ∀ {v : Json}, name ∉ names v → without name v = v
  | .null, _ | .bool _, _ | .int _, _ | .float _, _ | .str _, _ => rfl
  | .arr _, h => congrArg arr (withoutItems_of_not_mem_names h)
  | .obj _, h => congrArg obj (withoutEntries_of_not_mem_names h)
  | .keyed _, h => congrArg keyed (withoutKeyed_of_not_mem_names h)

theorem withoutItems_of_not_mem_names :
    ∀ {items : List Json}, name ∉ namesOfItems items → withoutItems name items = items
  | [], _ => rfl
  | v :: vs, h => by
      obtain ⟨hv, hvs⟩ := not_or.mp (h ∘ List.mem_append.mpr)
      rw [withoutItems, without_of_not_mem_names hv, withoutItems_of_not_mem_names hvs]

theorem withoutEntries_of_not_mem_names :
    ∀ {entries : List (Text × Json)}, name ∉ namesOfEntries entries →
      withoutEntries name entries = entries
  | [], _ => rfl
  | (k, v) :: es, h => by
      obtain ⟨hk, hrest⟩ := not_or.mp (h ∘ List.mem_cons.mpr)
      obtain ⟨hv, hes⟩ := not_or.mp (hrest ∘ List.mem_append.mpr)
      rw [withoutEntries, if_neg (Ne.symm hk), without_of_not_mem_names hv,
        withoutEntries_of_not_mem_names hes]

theorem withoutKeyed_of_not_mem_names :
    ∀ {entries : List (Key × Json)}, name ∉ namesOfKeyed entries →
      withoutKeyed name entries = entries
  | [], _ => rfl
  | (k, v) :: es, h => by
      obtain ⟨hk, hrest⟩ := not_or.mp (h ∘ List.mem_append.mpr)
      obtain ⟨hv, hes⟩ := not_or.mp (hrest ∘ List.mem_append.mpr)
      have hkey : k ≠ .text name := by
        rintro rfl
        exact hk (List.mem_singleton_self name)
      rw [withoutKeyed, if_neg hkey, without_of_not_mem_names hv,
        withoutKeyed_of_not_mem_names hes]

end

mutual

theorem not_mem_names_without : ∀ v : Json, name ∉ names (without name v)
  | .null | .bool _ | .int _ | .float _ | .str _ => nofun
  | .arr items => not_mem_namesOfItems_without items
  | .obj entries => not_mem_namesOfEntries_without entries
  | .keyed entries => not_mem_namesOfKeyed_without entries

theorem not_mem_namesOfItems_without :
    ∀ items : List Json, name ∉ namesOfItems (withoutItems name items)
  | [] => nofun
  | v :: vs => by
      rw [withoutItems, namesOfItems, List.mem_append]
      exact not_or_intro (not_mem_names_without v) (not_mem_namesOfItems_without vs)

theorem not_mem_namesOfEntries_without :
    ∀ entries : List (Text × Json), name ∉ namesOfEntries (withoutEntries name entries)
  | [] => nofun
  | (k, v) :: es => by
      rw [withoutEntries]
      split
      · exact not_mem_namesOfEntries_without es
      · rename_i hk
        rw [namesOfEntries, List.mem_cons, List.mem_append]
        exact not_or_intro (Ne.symm hk)
          (not_or_intro (not_mem_names_without v) (not_mem_namesOfEntries_without es))

theorem not_mem_namesOfKeyed_without :
    ∀ entries : List (Key × Json), name ∉ namesOfKeyed (withoutKeyed name entries)
  | [] => nofun
  | (k, v) :: es => by
      rw [withoutKeyed]
      split
      · exact not_mem_namesOfKeyed_without es
      · rename_i hk
        have hkey : name ∉ k.text?.toList := by
          cases k with
          | text t =>
              intro h
              exact hk (congrArg Key.text (List.mem_singleton.mp h).symm)
          | _ => nofun
        rw [namesOfKeyed, List.mem_append, List.mem_append]
        exact not_or_intro hkey
          (not_or_intro (not_mem_names_without v) (not_mem_namesOfKeyed_without es))

end

/-- What has lost a name loses nothing more by it. -/
theorem without_without (v : Json) : (v.without name).without name = v.without name :=
  without_of_not_mem_names (not_mem_names_without v)

/-- An entry of the name itself makes no difference. -/
theorem withoutEntries_set (value : Json) (entries : Table Json) :
    withoutEntries name (Table.set name value entries) = withoutEntries name entries := by
  induction entries with
  | nil => exact if_pos rfl
  | cons e es ih =>
      obtain ⟨k, v⟩ := e
      rw [Table.set]
      split
      · rename_i hk
        rw [withoutEntries, withoutEntries, if_pos hk, if_pos hk]
      · rw [withoutEntries, withoutEntries, ih]

theorem withoutEntries_eq_filter (entries : Table Json) :
    withoutEntries name entries =
      (entries.map fun e => (e.1, e.2.without name)).filter fun e => e.1 ≠ name := by
  induction entries with
  | nil => rfl
  | cons e es ih =>
      obtain ⟨k, v⟩ := e
      rw [withoutEntries, List.map_cons, List.filter_cons, ih]
      split <;> rename_i hk <;> simp [hk]

end ArticleExport.Json
