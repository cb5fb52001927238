import ArticleExport.Article.Ledger
import ArticleExport.Proofs.Table
import Mathlib.Data.List.Induction

/-!
# How ledgers merge

The entries of a ledger are lists to which an item is added only while there is
none of its name: tables by the names of their entries, bundles by their addresses,
where the empty address is no name at all.  Adding one list to another in this way
is associative, and comes down to putting the items with new names behind the others.
-/

namespace ArticleExport

/-! ## Lists in which the first item of a name counts -/

section AddNew

variable {α β : Type} [DecidableEq β] (name : α → Option β)

/-- An item that is not added to a list: it has no name, or one that an item has. -/
def Taken (xs : List α) (x : α) : Prop := name x = none ∨ name x ∈ xs.map name

instance (xs : List α) (x : α) : Decidable (Taken name xs x) :=
  inferInstanceAs (Decidable (_ ∨ _))

/-- The list with an item behind it, unless the item has no name or one that is taken. -/
def addNew (xs : List α) (x : α) : List α := if Taken name xs x then xs else xs ++ [x]

variable {name}

theorem addNew_of_taken {xs : List α} {x : α} (h : Taken name xs x) : addNew name xs x = xs :=
  if_pos h

theorem addNew_of_not_taken {xs : List α} {x : α} (h : ¬Taken name xs x) :
    addNew name xs x = xs ++ [x] :=
  if_neg h

theorem taken_addNew {xs : List α} {x y : α} :
    Taken name (addNew name xs y) x ↔ Taken name xs x ∨ name x = name y := by
  by_cases h : Taken name xs y
  · rw [addNew_of_taken h]
    refine ⟨.inl, ?_⟩
    rintro (hx | hxy)
    · exact hx
    · rw [Taken, hxy]
      exact h
  · rw [addNew_of_not_taken h, Taken, Taken, List.map_append, List.mem_append, List.map_singleton,
      List.mem_singleton, or_assoc]

/-- A name is taken in a list that has grown exactly when it was taken in a part of it. -/
theorem taken_foldl_addNew {xs ys : List α} {x : α} :
    Taken name (ys.foldl (addNew name) xs) x ↔ Taken name xs x ∨ Taken name ys x := by
  induction ys generalizing xs with
  | nil =>
      refine ⟨.inl, ?_⟩
      rintro (hx | hnone | hmem)
      · exact hx
      · exact .inl hnone
      · cases hmem
  | cons y ys ih =>
      rw [List.foldl_cons, ih, taken_addNew, Taken, Taken, Taken, List.map_cons, List.mem_cons]
      tauto

theorem foldl_addNew_concat (xs ys : List α) (y : α) :
    (ys ++ [y]).foldl (addNew name) xs = addNew name (ys.foldl (addNew name) xs) y := by
  rw [List.foldl_append, List.foldl_cons, List.foldl_nil]

theorem foldl_addNew_assoc (xs ys zs : List α) :
    zs.foldl (addNew name) (ys.foldl (addNew name) xs) =
      (zs.foldl (addNew name) ys).foldl (addNew name) xs := by
  induction zs using List.reverseRecOn with
  | nil => rfl
  | append_singleton zs z ih =>
      rw [foldl_addNew_concat, foldl_addNew_concat, ih]
      by_cases hz : Taken name (zs.foldl (addNew name) ys) z
      · rw [addNew_of_taken hz]
        exact addNew_of_taken (taken_foldl_addNew.mpr (.inr hz))
      · rw [addNew_of_not_taken hz, foldl_addNew_concat]

/-- The items that are added are those whose names are not taken. -/
theorem foldl_addNew_eq_append (xs ys : List α) :
    ys.foldl (addNew name) xs =
      xs ++ (ys.foldl (addNew name) []).filter fun y => ¬Taken name xs y := by
  induction ys using List.reverseRecOn with
  | nil => exact (List.append_nil xs).symm
  | append_singleton ys y ih =>
      rw [foldl_addNew_concat, foldl_addNew_concat]
      by_cases hys : Taken name (ys.foldl (addNew name) []) y
      · have hboth : Taken name (ys.foldl (addNew name) xs) y := by
          rw [taken_foldl_addNew] at hys ⊢
          rcases hys with (hnone | hnil) | hys
          · exact .inl (.inl hnone)
          · cases hnil
          · exact .inr hys
        rw [addNew_of_taken hys, addNew_of_taken hboth, ih]
      · rw [addNew_of_not_taken hys, List.filter_append, ← List.append_assoc, ← ih]
        by_cases hxs : Taken name xs y
        · rw [addNew_of_taken (taken_foldl_addNew.mpr (.inl hxs)),
            List.filter_cons_of_neg (by simpa using hxs), List.filter_nil, List.append_nil]
        · have hboth : ¬Taken name (ys.foldl (addNew name) xs) y := by
            rw [taken_foldl_addNew]
            exact not_or_intro hxs fun h => hys (taken_foldl_addNew.mpr (.inr h))
          rw [addNew_of_not_taken hboth, List.filter_cons_of_pos (by simpa using hxs),
            List.filter_nil]

/-- Only items with a name are added. -/
theorem mem_foldl_addNew {xs ys : List α} {y : α} (h : y ∈ ys.foldl (addNew name) xs) :
    y ∈ xs ∨ name y ≠ none := by
  induction ys generalizing xs with
  | nil => exact .inl h
  | cons z ys ih =>
      rw [List.foldl_cons] at h
      rcases ih h with hmem | hnamed
      · by_cases hz : Taken name xs z
        · rw [addNew_of_taken hz] at hmem
          exact .inl hmem
        · rw [addNew_of_not_taken hz, List.mem_append, List.mem_singleton] at hmem
          rcases hmem with hmem | rfl
          · exact .inl hmem
          · exact .inr fun hnone => hz (.inl hnone)
      · exact .inr hnamed

/-- Items that are all taken leave a list as it is. -/
theorem foldl_addNew_of_taken {xs ys : List α} (h : ∀ y ∈ ys, Taken name xs y) :
    ys.foldl (addNew name) xs = xs := by
  induction ys with
  | nil => rfl
  | cons y ys ih =>
      rw [List.foldl_cons, addNew_of_taken (h y (.head _))]
      exact ih fun z hz => h z (.tail _ hz)

end AddNew

/-! ## Tables -/

namespace Table

variable {α : Type}

theorem has_eq_true_iff {name : Text} {t : Table α} : has name t = true ↔ name ∈ keys t := by
  rw [has, Option.isSome_iff_ne_none, Ne, get?_eq_none_iff, not_not]

theorem taken_iff {t : Table α} {e : Text × α} :
    Taken (fun e => some e.1) t e ↔ e.1 ∈ keys t := by
  simp [Taken, keys]

theorem merge_eq_foldl (s t : Table α) : merge s t = t.foldl (addNew fun e => some e.1) s := by
  simp only [merge, setIfAbsent, has_eq_true_iff]
  congr 1
  funext acc e
  simp only [addNew, taken_iff]

theorem merge_cons (s t : Table α) (e : Text × α) :
    merge s (e :: t) = merge (setIfAbsent e.1 e.2 s) t := rfl

theorem mem_keys_setIfAbsent {t : Table α} {n name : Text} {value : α} :
    n ∈ keys (setIfAbsent name value t) ↔ n ∈ keys t ∨ n = name := by
  rw [setIfAbsent]
  by_cases h : has name t = true
  · rw [if_pos h]
    refine ⟨.inl, ?_⟩
    rintro (hn | rfl)
    · exact hn
    · exact has_eq_true_iff.mp h
  · rw [if_neg h, keys, keys, List.map_append, List.mem_append, List.map_singleton,
      List.mem_singleton]

theorem mem_keys_merge {s t : Table α} {name : Text} :
    name ∈ keys (merge s t) ↔ name ∈ keys s ∨ name ∈ keys t := by
  induction t generalizing s with
  | nil => simp [keys]
  | cons e t ih =>
      rw [merge_cons, ih, mem_keys_setIfAbsent, or_assoc]
      exact or_congr_right List.mem_cons.symm

theorem get?_append (s t : Table α) (name : Text) :
    get? name (s ++ t) = (get? name s).or (get? name t) := by
  induction s with
  | nil => rfl
  | cons e s ih =>
      obtain ⟨k, v⟩ := e
      rw [List.cons_append, get?_cons, get?_cons, ih]
      split
      · rfl
      · rfl

theorem get?_setIfAbsent (t : Table α) (n name : Text) (value : α) :
    get? n (setIfAbsent name value t) = (get? n t).or (if name = n then some value else none) := by
  rw [setIfAbsent]
  by_cases h : has name t = true
  · rw [if_pos h]
    by_cases hn : name = n
    · subst hn
      obtain ⟨v, hv⟩ := Option.isSome_iff_exists.mp h
      rw [hv]
      rfl
    · rw [if_neg hn, Option.or_none]
  · rw [if_neg h, get?_append]
    rfl

/-- The first value of a name counts. -/
theorem get?_merge (s t : Table α) (name : Text) :
    get? name (merge s t) = (get? name s).or (get? name t) := by
  induction t generalizing s with
  | nil => rw [merge_nil, get?_nil, Option.or_none]
  | cons e t ih =>
      obtain ⟨k, v⟩ := e
      rw [merge_cons, ih, get?_setIfAbsent, get?_cons, Option.or_assoc]
      split
      · rfl
      · rfl

theorem merge_assoc (s t u : Table α) : merge (merge s t) u = merge s (merge t u) := by
  simp only [merge_eq_foldl]
  exact foldl_addNew_assoc s t u

/-- The entries that a merge adds are those with new names. -/
theorem merge_eq_append (s t : Table α) :
    merge s t = s ++ (merge [] t).filter fun e => e.1 ∉ keys s := by
  rw [merge_eq_foldl, merge_eq_foldl, foldl_addNew_eq_append s t]
  simp only [taken_iff]

/-- A table that was merged before adds nothing. -/
theorem merge_merge_self (s t : Table α) : merge (merge s t) t = merge s t := by
  rw [merge_eq_foldl (merge s t) t]
  refine foldl_addNew_of_taken fun e he => ?_
  exact taken_iff.mpr (mem_keys_merge.mpr (.inr (List.mem_map_of_mem he)))

end Table

/-! ## Bundles and ledgers -/

/-- Bundles are named by their addresses; an empty address is no name. -/
def bundleName (address : Text) : Option Text := if address.isEmpty then none else some address

theorem bundleName_eq_some_iff {address a : Text} :
    bundleName address = some a ↔ address = a ∧ ¬a.isEmpty := by
  rw [bundleName]
  by_cases hempty : address.isEmpty
  · rw [if_pos hempty]
    refine ⟨nofun, ?_⟩
    rintro ⟨rfl, hnot⟩
    exact (hnot hempty).elim
  · rw [if_neg hempty, Option.some.injEq]
    refine ⟨?_, And.left⟩
    rintro rfl
    exact ⟨rfl, hempty⟩

theorem taken_bundle_iff {bundles : List Text} {address : Text} :
    Taken bundleName bundles address ↔ address.isEmpty ∨ address ∈ bundles := by
  by_cases hempty : address.isEmpty
  · simp [Taken, bundleName, hempty]
  · have hname : bundleName address = some address := bundleName_eq_some_iff.mpr ⟨rfl, hempty⟩
    simp [Taken, hname, hempty, bundleName_eq_some_iff]

theorem addBundle_eq_addNew : addBundle = addNew bundleName := by
  funext bundles address
  simp only [addBundle, addNew, taken_bundle_iff, Bool.or_eq_true, List.contains_iff_mem]

theorem not_isEmpty_of_mem_foldl_addBundle {bundles : List Text} {address : Text}
    (h : address ∈ bundles.foldl addBundle []) :
    address.isEmpty = false := by
  rw [addBundle_eq_addNew] at h
  rcases mem_foldl_addNew h with hnil | hnamed
  · cases hnil
  · exact Bool.eq_false_iff.mpr fun hempty => hnamed (if_pos hempty)

/-- The bundles that are added are those that are not there yet. -/
theorem foldl_addBundle_eq_append (as bs : List Text) :
    bs.foldl addBundle as = as ++ (bs.foldl addBundle []).filter fun a => a ∉ as := by
  rw [addBundle_eq_addNew, foldl_addNew_eq_append as bs, ← addBundle_eq_addNew]
  congr 1
  refine List.filter_congr fun a ha => ?_
  simp only [taken_bundle_iff, not_isEmpty_of_mem_foldl_addBundle ha, Bool.false_eq_true, false_or]

namespace Ledger

/-- One ledger is what another one becomes when the entries of a third one come after its own. -/
structure Extends (whole first second : Ledger) : Prop where
  textStyles : whole.textStyles =
    first.textStyles ++ second.textStyles.filter fun e => e.1 ∉ Table.keys first.textStyles
  layouts : whole.layouts =
    first.layouts ++ second.layouts.filter fun e => e.1 ∉ Table.keys first.layouts
  componentStyles : whole.componentStyles =
    first.componentStyles ++
      second.componentStyles.filter fun e => e.1 ∉ Table.keys first.componentStyles
  bundles : whole.bundles = first.bundles ++ second.bundles.filter fun a => a ∉ first.bundles
  issues : whole.issues = first.issues ++ second.issues

theorem merge_assoc (a b c : Ledger) : (a.merge b).merge c = a.merge (b.merge c) := by
  simp only [merge, Table.merge_assoc, addBundle_eq_addNew, foldl_addNew_assoc, List.append_assoc]

/-- What is merged into a ledger extends it by what it comes to on its own. -/
theorem merge_extends (a b : Ledger) : (a.merge b).Extends a (empty.merge b) where
  textStyles := Table.merge_eq_append _ _
  layouts := Table.merge_eq_append _ _
  componentStyles := Table.merge_eq_append _ _
  bundles := foldl_addBundle_eq_append _ _
  issues := rfl

end Ledger

end ArticleExport
