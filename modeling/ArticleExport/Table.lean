import ArticleExport.Text.Basic

/-!
# Tables

Names with a value each, in the order in which the names came.  Setting a name that is present keeps
its place, so a table remembers first places and last values.  Objects, attributes, registries and
stores are all tables.
-/

namespace ArticleExport

/-- Values by name, in the order in which the names were first set. -/
abbrev Table (α : Type u) := List (Text × α)

namespace Table

variable {α : Type u} {β : Type v}

/-- The names, in order. -/
def keys (t : Table α) : List Text := t.map Prod.fst

/-- The values, in order. -/
def values (t : Table α) : List α := t.map Prod.snd

/-- The value of a name. -/
def get? (name : Text) : Table α → Option α
  | [] => none
  | (k, v) :: t => if k = name then some v else get? name t

/-- Whether a name has a value. -/
def has (name : Text) (t : Table α) : Bool := (get? name t).isSome

/-- Gives a name a value: in its place where it has one, at the end otherwise. -/
def set (name : Text) (value : α) : Table α → Table α
  | [] => [(name, value)]
  | (k, v) :: t => if k = name then (k, value) :: t else (k, v) :: set name value t

/-- Takes a name out. -/
def erase (name : Text) (t : Table α) : Table α := t.filter fun entry => entry.1 ≠ name

/-- Sets every entry of `new`, in order. -/
def update (t new : Table α) : Table α := new.foldl (fun acc e => set e.1 e.2 acc) t

/-- The table of a list of entries in which a name may stand more than once: first place, last value. -/
def ofEntries (entries : List (Text × α)) : Table α := update [] entries

/-- Sets a name only where it has no value yet. -/
def setIfAbsent (name : Text) (value : α) (t : Table α) : Table α :=
  if has name t then t else t ++ [(name, value)]

/-- No name stands twice. -/
def Distinct (t : Table α) : Prop := t.keys.Nodup

instance (t : Table α) : Decidable t.Distinct := inferInstanceAs (Decidable t.keys.Nodup)

@[simp] theorem get?_nil (name : Text) : get? name ([] : Table α) = none := rfl

theorem get?_cons (name k : Text) (v : α) (t : Table α) :
    get? name ((k, v) :: t) = if k = name then some v else get? name t := rfl

/-- Setting a name shows at that name and nowhere else. -/
theorem get?_set (name other : Text) (value : α) (t : Table α) :
    get? other (set name value t) = if name = other then some value else get? other t := by
  induction t with
  | nil => simp [set, get?]
  | cons e t ih =>
    obtain ⟨k, v⟩ := e
    simp only [set]
    by_cases hk : k = name
    · subst hk; by_cases h : k = other <;> simp [get?, h]
    · simp only [hk, if_false, get?_cons, ih]
      by_cases h : k = other
      · subst h; simp [Ne.symm hk]
      · simp [h]

/-- A name that is taken out is gone, and the others stay. -/
theorem get?_erase (name other : Text) (t : Table α) :
    get? other (erase name t) = if name = other then none else get? other t := by
  induction t with
  | nil => simp [erase]
  | cons e t ih =>
    obtain ⟨k, v⟩ := e
    by_cases hk : k = name
    · subst hk
      have : erase k ((k, v) :: t) = erase k t := by simp [erase]
      rw [this, ih, get?_cons]
      by_cases h : k = other <;> simp [h]
    · have : erase name ((k, v) :: t) = (k, v) :: erase name t := by simp [erase, hk]
      rw [this, get?_cons, get?_cons, ih]
      by_cases h : k = other
      · subst h; simp [Ne.symm hk]
      · simp [h]

/-- Setting a name adds it at the end, or changes no name. -/
theorem keys_set (name : Text) (value : α) (t : Table α) :
    keys (set name value t) = if name ∈ keys t then keys t else keys t ++ [name] := by
  induction t with
  | nil => simp [set, keys]
  | cons e t ih =>
    obtain ⟨k, v⟩ := e
    by_cases hk : k = name
    · subst hk; simp [set, keys]
    · simp only [set, hk, if_false]
      have hcons : ∀ s : Table α, keys ((k, v) :: s) = k :: keys s := fun _ => rfl
      rw [hcons, hcons, ih]
      by_cases hm : name ∈ keys t
      · simp [hm]
      · simp [hm, Ne.symm hk]

theorem Distinct.set {t : Table α} (h : t.Distinct) (name : Text) (value : α) :
    (Table.set name value t).Distinct := by
  unfold Distinct at *
  rw [keys_set]
  split
  · exact h
  · rename_i hm
    rw [List.nodup_append]
    refine ⟨h, by simp, ?_⟩
    intro a ha b hb
    simp only [List.mem_singleton] at hb
    subst hb
    exact fun hab => hm (hab ▸ ha)

theorem Distinct.erase {t : Table α} (h : t.Distinct) (name : Text) :
    (Table.erase name t).Distinct :=
  h.sublist (List.filter_sublist.map Prod.fst)

end Table

end ArticleExport
