import ArticleExport.Table
import Mathlib.Data.List.Induction
import Mathlib.Tactic.Common

/-!
# Tables as lists of entries

What the operations on tables do to the list of their entries, beyond what a look
at single names shows.
-/

namespace ArticleExport.Table

variable {α : Type}

theorem erase_of_not_mem {t : Table α} {name : Text} (h : name ∉ keys t) : erase name t = t := by
  refine List.filter_eq_self.mpr ?_
  intro e he
  have hne : e.1 ≠ name := fun hname => h (hname ▸ List.mem_map_of_mem he)
  simpa using hne

theorem not_mem_keys_erase (name : Text) (t : Table α) : name ∉ keys (erase name t) := by
  intro h
  obtain ⟨e, he, hname⟩ := List.mem_map.mp h
  have hne := (List.mem_filter.mp he).2
  simp [hname] at hne

/-- Of a name that is set and taken out nothing is left. -/
theorem erase_set (name : Text) (value : α) (t : Table α) :
    erase name (set name value t) = erase name t := by
  induction t with
  | nil => simp [set, erase]
  | cons e t ih =>
      obtain ⟨k, v⟩ := e
      rw [set]
      split
      · rename_i hname
        simp [erase, hname]
      · rename_i hname
        have hkept : ∀ s : Table α, erase name ((k, v) :: s) = (k, v) :: erase name s :=
          fun s => List.filter_cons_of_pos (by simpa using hname)
        rw [hkept, hkept, ih]

theorem set_of_not_mem {t : Table α} {name : Text} (h : name ∉ keys t) (value : α) :
    set name value t = t ++ [(name, value)] := by
  induction t with
  | nil => rfl
  | cons e t ih =>
      obtain ⟨hname, ht⟩ : name ≠ e.1 ∧ name ∉ keys t :=
        not_or.mp fun hmem => h (List.mem_cons.mpr hmem)
      rw [set, if_neg (Ne.symm hname), ih ht, List.cons_append]

theorem set_ne_nil (name : Text) (value : α) (t : Table α) : set name value t ≠ [] := by
  cases t with
  | nil => exact List.cons_ne_nil _ _
  | cons e t =>
      rw [set]
      split
      · exact List.cons_ne_nil _ _
      · exact List.cons_ne_nil _ _

/-- Setting a name puts it, but for the order of names, in front of the other names. -/
theorem set_perm {t : Table α} (h : Distinct t) (name : Text) (value : α) :
    (set name value t).Perm ((name, value) :: erase name t) := by
  induction t with
  | nil => exact .refl _
  | cons e t ih =>
      obtain ⟨k, v⟩ := e
      obtain ⟨hk, ht⟩ : k ∉ keys t ∧ Distinct t := List.nodup_cons.mp h
      by_cases hname : k = name
      · subst hname
        have herase : erase k ((k, v) :: t) = t := by
          rw [erase, List.filter_cons_of_neg (by simp)]
          exact erase_of_not_mem hk
        rw [set, if_pos rfl, herase]
      · have herase : erase name ((k, v) :: t) = (k, v) :: erase name t :=
          List.filter_cons_of_pos (by simpa using hname)
        rw [set, if_neg hname, herase]
        exact ((ih ht).cons _).trans (.swap _ _ _)

/-- Entries under other names stay as they are when those of one name are changed. -/
theorem map_of_not_mem {t : Table α} {name : Text} (h : name ∉ keys t) (f : α → α) :
    t.map (fun e => if e.1 = name then (e.1, f e.2) else e) = t := by
  refine (List.map_congr_left ?_).trans (List.map_id t)
  intro e he
  have hne : e.1 ≠ name := fun hname => h (hname ▸ List.mem_map_of_mem he)
  exact if_neg hne

/-- Setting a name again by its value changes its only entry. -/
theorem set_eq_map
    {t : Table α} (h : Distinct t) {name : Text} {value : α} (hvalue : get? name t = some value)
    (f : α → α) :
    set name (f value) t = t.map fun e => if e.1 = name then (e.1, f e.2) else e := by
  induction t with
  | nil => cases hvalue
  | cons e t ih =>
      obtain ⟨k, v⟩ := e
      obtain ⟨hk, ht⟩ : k ∉ keys t ∧ Distinct t := List.nodup_cons.mp h
      rw [get?_cons] at hvalue
      by_cases hname : k = name
      · subst hname
        rw [if_pos rfl] at hvalue
        obtain rfl := Option.some.inj hvalue
        rw [set, if_pos rfl, List.map_cons, if_pos rfl, map_of_not_mem hk]
      · rw [if_neg hname] at hvalue
        rw [set, if_neg hname, List.map_cons, if_neg hname, ih ht hvalue]

theorem get?_eq_none_iff {t : Table α} {name : Text} : get? name t = none ↔ name ∉ keys t := by
  induction t with
  | nil => simp [keys]
  | cons e t ih =>
      obtain ⟨k, v⟩ := e
      rw [get?_cons, keys, List.map_cons, List.mem_cons, not_or, ← keys, ← ih]
      by_cases hname : k = name
      · simp [hname]
      · simp [hname, Ne.symm hname]

/-- A name that is kept has the value that it had. -/
theorem get?_filter (keep : Text → Bool) {name : Text} (h : keep name = true) (t : Table α) :
    get? name (t.filter fun e => keep e.1) = get? name t := by
  induction t with
  | nil => rfl
  | cons e t ih =>
      obtain ⟨k, v⟩ := e
      rw [List.filter_cons]
      by_cases hk : keep k = true
      · rw [if_pos hk, get?_cons, get?_cons, ih]
      · have hne : k ≠ name := by
          rintro rfl
          exact hk h
        rw [if_neg hk, get?_cons, if_neg hne, ih]

theorem mem_of_get?_eq_some {t : Table α} {name : Text} {value : α}
    (h : get? name t = some value) : (name, value) ∈ t := by
  induction t with
  | nil => cases h
  | cons e t ih =>
      obtain ⟨k, v⟩ := e
      rw [get?_cons] at h
      by_cases hname : k = name
      · rw [if_pos hname] at h
        obtain rfl := Option.some.inj h
        exact hname ▸ .head _
      · rw [if_neg hname] at h
        exact .tail _ (ih h)

theorem mem_set {t : Table α} {name : Text} {value : α} {e : Text × α}
    (h : e ∈ set name value t) : e = (name, value) ∨ e ∈ t := by
  induction t with
  | nil => exact .inl (List.mem_singleton.mp h)
  | cons f t ih =>
      obtain ⟨k, v⟩ := f
      rw [set] at h
      split at h
      · rename_i hname
        rcases List.mem_cons.mp h with rfl | h
        · exact .inl (hname ▸ rfl)
        · exact .inr (.tail _ h)
      · rcases List.mem_cons.mp h with rfl | h
        · exact .inr (.head _)
        · exact (ih h).imp_right (.tail _)

theorem set_set (t : Table α) (name : Text) (value value' : α) :
    set name value' (set name value t) = set name value' t := by
  induction t with
  | nil => simp [set]
  | cons e t ih =>
      obtain ⟨k, v⟩ := e
      by_cases hname : k = name
      · simp [set, hname]
      · simp [set, hname, ih]

/-- Setting a name to the value that it has changes nothing. -/
theorem set_of_get?_eq_some {t : Table α} {name : Text} {value : α}
    (h : get? name t = some value) : set name value t = t := by
  induction t with
  | nil => cases h
  | cons e t ih =>
      obtain ⟨k, v⟩ := e
      rw [get?_cons] at h
      by_cases hname : k = name
      · rw [if_pos hname] at h
        rw [set, if_pos hname, Option.some.inj h]
      · rw [if_neg hname] at h
        rw [set, if_neg hname, ih h]

/-- Setting a name makes one entry more, unless the name has a value. -/
theorem length_set (name : Text) (value : α) (t : Table α) :
    (set name value t).length = if has name t then t.length else t.length + 1 := by
  induction t with
  | nil => rfl
  | cons e t ih =>
      obtain ⟨k, v⟩ := e
      rw [set, has, get?_cons]
      by_cases hname : k = name
      · rw [if_pos hname, if_pos hname]
        rfl
      · rw [if_neg hname, if_neg hname, List.length_cons, List.length_cons, ih, has]
        split <;> rfl

/-! ## Tables with their values mapped -/

section MapValues

variable {β : Type}

/-- The values of a table mapped, under their names. -/
def mapValues (φ : α → β) (t : Table α) : Table β := t.map fun e => (e.1, φ e.2)

theorem keys_mapValues (φ : α → β) (t : Table α) : keys (mapValues φ t) = keys t := by
  rw [keys, mapValues, List.map_map]
  rfl

theorem get?_mapValues (φ : α → β) (name : Text) (t : Table α) :
    get? name (mapValues φ t) = (get? name t).map φ := by
  induction t with
  | nil => rfl
  | cons e t ih =>
      obtain ⟨k, v⟩ := e
      rw [mapValues, List.map_cons, get?_cons, get?_cons, ← mapValues, ih]
      split
      · rfl
      · rfl

theorem mapValues_congr {f g : α → β} {t : Table α} (h : ∀ v ∈ values t, f v = g v) :
    mapValues f t = mapValues g t := by
  refine List.map_congr_left ?_
  intro e he
  rw [h e.2 (List.mem_map_of_mem he)]

theorem mapValues_id (t : Table α) : mapValues id t = t :=
  List.map_id t

end MapValues

/-! ## Names in the order in which they came -/

section Names

variable {β : Type} [BEq β] [LawfulBEq β]

theorem eraseDups_concat_of_mem {xs : List β} {x : β} (h : x ∈ xs) :
    (xs ++ [x]).eraseDups = xs.eraseDups := by
  have hnone : [x].removeAll xs = [] := by simp [List.removeAll, h]
  rw [List.eraseDups_append, hnone, List.eraseDups_nil, List.append_nil]

theorem eraseDups_concat_of_not_mem {xs : List β} {x : β} (h : x ∉ xs) :
    (xs ++ [x]).eraseDups = xs.eraseDups ++ [x] := by
  have hall : [x].removeAll xs = [x] := by simp [List.removeAll, h]
  rw [List.eraseDups_append, hall, List.eraseDups_cons, List.filter_nil, List.eraseDups_nil]

/-- A list without repetitions has each item once. -/
theorem nodup_eraseDups (xs : List β) : xs.eraseDups.Nodup := by
  induction xs using List.reverseRecOn with
  | nil => exact List.nodup_nil
  | append_singleton xs x ih =>
      by_cases h : x ∈ xs
      · rw [eraseDups_concat_of_mem h]
        exact ih
      · rw [eraseDups_concat_of_not_mem h, List.nodup_append]
        refine ⟨ih, List.pairwise_singleton _ x, ?_⟩
        rintro y hy _ hx rfl
        obtain rfl := List.mem_singleton.mp hx
        exact h (List.mem_eraseDups.mp hy)

end Names

/-- A name that is set comes behind those that came before it, unless it is one of them. -/
theorem keys_set_of_eq_eraseDups {t : Table α} {names : List Text} (h : keys t = names.eraseDups)
    (name : Text) (value : α) :
    keys (set name value t) = (names ++ [name]).eraseDups := by
  rw [keys_set, h]
  by_cases hname : name ∈ names
  · rw [if_pos (List.mem_eraseDups.mpr hname), eraseDups_concat_of_mem hname]
  · rw [if_neg (mt List.mem_eraseDups.mp hname), eraseDups_concat_of_not_mem hname]

/-! ## Tables put together -/

theorem get?_append_of_not_mem {s : Table α} {name : Text} (h : name ∉ keys s) (t : Table α) :
    get? name (s ++ t) = get? name t := by
  induction s with
  | nil => rfl
  | cons e s ih =>
      obtain ⟨hname, hs⟩ : name ≠ e.1 ∧ name ∉ keys s :=
        not_or.mp fun hmem => h (List.mem_cons.mpr hmem)
      rw [List.cons_append, get?_cons, if_neg (Ne.symm hname), ih hs]

theorem set_append_of_not_mem
    {s : Table α} {name : Text} (h : name ∉ keys s) (value : α) (t : Table α) :
    set name value (s ++ t) = s ++ set name value t := by
  induction s with
  | nil => rfl
  | cons e s ih =>
      obtain ⟨hname, hs⟩ : name ≠ e.1 ∧ name ∉ keys s :=
        not_or.mp fun hmem => h (List.mem_cons.mpr hmem)
      rw [List.cons_append, set, if_neg (Ne.symm hname), ih hs, List.cons_append]

theorem ofEntries_concat (s : Table α) (e : Text × α) :
    ofEntries (s ++ [e]) = set e.1 e.2 (ofEntries s) := by
  rw [ofEntries, update, List.foldl_append]
  rfl

/-- What counts of a list of entries is among them. -/
theorem mem_of_mem_ofEntries {s : Table α} {e : Text × α} (h : e ∈ ofEntries s) : e ∈ s := by
  induction s using List.reverseRecOn with
  | nil => exact h
  | append_singleton s d ih =>
      rw [ofEntries_concat] at h
      rw [List.mem_append, List.mem_singleton]
      rcases mem_set h with rfl | hmem
      · exact .inr rfl
      · exact .inl (ih hmem)

theorem mem_keys_of_mem_keys_ofEntries {s : Table α} {name : Text} (h : name ∈ keys (ofEntries s)) :
    name ∈ keys s := by
  induction s using List.reverseRecOn with
  | nil => exact h
  | append_singleton s e ih =>
      rw [ofEntries_concat, keys_set] at h
      rw [keys, List.map_append, List.mem_append]
      split at h
      · exact .inl (ih h)
      · rcases List.mem_append.mp h with h | h
        · exact .inl (ih h)
        · exact .inr h

/-- A table whose last name is new keeps it last. -/
theorem ofEntries_concat_of_not_mem {s : Table α} {name : Text} (h : name ∉ keys s) (value : α) :
    ofEntries (s ++ [(name, value)]) = ofEntries s ++ [(name, value)] := by
  rw [ofEntries_concat]
  exact set_of_not_mem (fun hname => h (mem_keys_of_mem_keys_ofEntries hname)) value

theorem ofEntries_of_distinct {s : Table α} (h : Distinct s) : ofEntries s = s := by
  induction s using List.reverseRecOn with
  | nil => rfl
  | append_singleton s e ih =>
      rw [Distinct, keys, List.map_append, List.nodup_append] at h
      obtain ⟨hs, -, hnew⟩ := h
      have hname : e.1 ∉ keys s := fun hmem => hnew _ hmem _ (List.mem_singleton_self e.1) rfl
      rw [ofEntries_concat_of_not_mem hname, ih hs]

/-- In a table whose names are distinct, every entry is the one of its name. -/
theorem get?_of_mem {t : Table α} (h : Distinct t) {name : Text} {value : α}
    (hmem : (name, value) ∈ t) : get? name t = some value := by
  induction t with
  | nil => cases hmem
  | cons e t ih =>
      obtain ⟨k, v⟩ := e
      obtain ⟨hk, ht⟩ : k ∉ keys t ∧ Distinct t := List.nodup_cons.mp h
      rw [get?_cons]
      rcases List.mem_cons.mp hmem with heq | hmem
      · obtain ⟨rfl, rfl⟩ := Prod.mk.inj heq
        exact if_pos rfl
      · have hne : k ≠ name := by
          rintro rfl
          exact hk (List.mem_map_of_mem hmem)
        rw [if_neg hne, ih ht hmem]

/-- In a table whose names are distinct, a name has one value only. -/
theorem Distinct.eq_of_mem {t : Table α} (h : Distinct t) {name : Text} {value other : α}
    (hvalue : (name, value) ∈ t) (hother : (name, other) ∈ t) : value = other :=
  Option.some.inj ((get?_of_mem h hvalue).symm.trans (get?_of_mem h hother))

/-! ## Tables set over another -/

theorem update_cons (t : Table α) (e : Text × α) (new : Table α) :
    update t (e :: new) = update (set e.1 e.2 t) new := rfl

theorem Distinct.update {t : Table α} (h : Distinct t) (new : Table α) :
    Distinct (Table.update t new) := by
  induction new generalizing t with
  | nil => exact h
  | cons e new ih => exact ih (h.set e.1 e.2)

/-- What is set over a table counts, and the table where nothing is set over it. -/
theorem get?_update {new : Table α} (h : Distinct new) (name : Text) (t : Table α) :
    get? name (update t new) = (get? name new).or (get? name t) := by
  induction new generalizing t with
  | nil => rfl
  | cons e new ih =>
      obtain ⟨k, v⟩ := e
      obtain ⟨hk, hnew⟩ : k ∉ keys new ∧ Distinct new := List.nodup_cons.mp h
      rw [update_cons, ih hnew, get?_set, get?_cons]
      by_cases hname : k = name
      · subst hname
        rw [if_pos rfl, if_pos rfl, get?_eq_none_iff.mpr hk]
        rfl
      · rw [if_neg hname, if_neg hname]

theorem mem_update {t new : Table α} {e : Text × α} (h : e ∈ update t new) : e ∈ t ∨ e ∈ new := by
  induction new generalizing t with
  | nil => exact .inl h
  | cons d new ih =>
      rcases ih h with hset | hnew
      · rcases mem_set hset with rfl | hmem
        · exact .inr (.head _)
        · exact .inl hmem
      · exact .inr (.tail _ hnew)

end ArticleExport.Table
