import ArticleExport.Json.Printer
import ArticleExport.Proofs.Text.Case
import Mathlib.Data.List.Lex
import Mathlib.Data.List.Nodup
import Mathlib.Tactic.Common

/-!
# Values up to the order of names

Two values say the same when one comes from the other by putting the names of
objects in another order, at any depth.  Putting every object in the order of its
names picks one value among all that say the same, so that this can be decided by
comparing two values in order.

Names are ordered by code points.  That order is linear, which is why the names
of an object with distinct names can be in order in one way only.
-/

namespace ArticleExport

/-! ## The order of texts -/

namespace Text

/-- The order of texts is the lexicographic order of the numbers of their code points. -/
theorem lt_iff (s t : Text) :
    lt s t = true ↔ s.map CodePoint.value < t.map CodePoint.value := by
  induction s generalizing t with
  | nil => cases t <;> simp [lt]
  | cons a s ih =>
      cases t with
      | nil => simp [lt]
      | cons b t => simp [lt, List.cons_lt_cons_iff, ih]

theorem le_iff (s t : Text) :
    le s t = true ↔ s.map CodePoint.value ≤ t.map CodePoint.value := by
  rw [le, Bool.not_eq_true', ← Bool.not_eq_true, lt_iff, not_lt]

theorem le_trans {s t u : Text} (hst : le s t = true) (htu : le t u = true) : le s u = true :=
  (le_iff s u).mpr (((le_iff s t).mp hst).trans ((le_iff t u).mp htu))

theorem le_or_le (s t : Text) : (le s t || le t s) = true := by
  rw [Bool.or_eq_true, le_iff, le_iff]
  exact le_total _ _

theorem le_antisymm {s t : Text} (hst : le s t = true) (hts : le t s = true) : s = t :=
  CodePoint.value_injective.list_map (((le_iff s t).mp hst).antisymm ((le_iff t s).mp hts))

/-- Texts can be put in order in one way only. -/
theorem sorted_eq_of_perm {ts us : List Text} (h : ts.Perm us) : sorted ts = sorted us := by
  have hpairwise (ts : List Text) : (sorted ts).Pairwise fun s t => le s t = true :=
    List.pairwise_mergeSort (fun s t u => @le_trans s t u) le_or_le ts
  have hperm (ts : List Text) : (sorted ts).Perm ts := List.mergeSort_perm ts _
  refine List.Perm.eq_of_pairwise ?_ (hpairwise ts) (hpairwise us)
    (((hperm ts).trans h).trans (hperm us).symm)
  intro s t _ _ hst hts
  exact le_antisymm hst hts

end Text

namespace Json

/-! ## Objects in the order of their names -/

theorem inOrderItems_eq_map (items : List Json) : inOrderItems items = items.map inOrder := by
  induction items with
  | nil => rfl
  | cons v vs ih => rw [inOrderItems, ih, List.map_cons]

theorem inOrderEntries_eq_map (entries : List (Text × Json)) :
    inOrderEntries entries = entries.map fun e => (e.1, e.2.inOrder) := by
  induction entries with
  | nil => rfl
  | cons e es ih => rw [inOrderEntries, ih, List.map_cons]

theorem inOrderKeyed_eq_map (entries : List (Key × Json)) :
    inOrderKeyed entries = entries.map fun e => (e.1, e.2.inOrder) := by
  induction entries with
  | nil => rfl
  | cons e es ih => rw [inOrderKeyed, ih, List.map_cons]

theorem sortEntries_perm (entries : List (Text × Json)) :
    (sortEntries entries).Perm entries :=
  List.mergeSort_perm entries _

theorem sortEntries_pairwise (entries : List (Text × Json)) :
    (sortEntries entries).Pairwise fun a b => Text.le a.1 b.1 = true :=
  List.pairwise_mergeSort (fun a b c => @Text.le_trans a.1 b.1 c.1)
    (fun a b => Text.le_or_le a.1 b.1) entries

/-- Distinct names can be put in order in one way only. -/
theorem sortEntries_congr
    {s t : List (Text × Json)} (hdistinct : Table.Distinct s) (h : s.Perm t) :
    sortEntries s = sortEntries t := by
  have hs := sortEntries_perm s
  have ht := sortEntries_perm t
  refine List.Perm.eq_of_pairwise ?_ (sortEntries_pairwise s) (sortEntries_pairwise t)
    ((hs.trans h).trans ht.symm)
  intro a b ha hb hab hba
  have hb' : b ∈ s := h.symm.subset (ht.subset hb)
  exact List.inj_on_of_nodup_map hdistinct (hs.subset ha) hb' (Text.le_antisymm hab hba)

/-! ## Exact values -/

/-- A value without floating-point numbers in which every object has distinct names,
all of them texts. -/
inductive IsExact : Json → Prop where
  | null : IsExact null
  | bool (b : Bool) : IsExact (bool b)
  | int (n : Int) : IsExact (int n)
  | str (t : Text) : IsExact (str t)
  | arr {items : List Json} (h : ∀ v ∈ items, IsExact v) : IsExact (arr items)
  | obj {entries : List (Text × Json)}
      (hdistinct : Table.Distinct entries) (h : ∀ e ∈ entries, IsExact e.2) :
      IsExact (obj entries)

theorem isExact_arr {items : List Json} : IsExact (.arr items) ↔ ∀ v ∈ items, IsExact v :=
  ⟨fun h => by cases h; assumption, .arr⟩

theorem isExact_obj {entries : List (Text × Json)} :
    IsExact (.obj entries) ↔ Table.Distinct entries ∧ ∀ e ∈ entries, IsExact e.2 :=
  ⟨fun h => by cases h; exact ⟨‹_›, ‹_›⟩, fun h => .obj h.1 h.2⟩

theorem isExact_obj_cons {name : Text} {v : Json} {entries : List (Text × Json)} :
    IsExact (.obj ((name, v) :: entries)) ↔
      name ∉ Table.keys entries ∧ IsExact v ∧ IsExact (.obj entries) := by
  have hdistinct : Table.Distinct ((name, v) :: entries) ↔
      name ∉ Table.keys entries ∧ Table.Distinct entries := List.nodup_cons
  rw [isExact_obj, isExact_obj, List.forall_mem_cons, hdistinct]
  tauto

theorem distinct_inOrderEntries {entries : List (Text × Json)} (h : IsExact (.obj entries)) :
    Table.Distinct (inOrderEntries entries) := by
  rw [inOrderEntries_eq_map]
  simpa [Table.Distinct, Table.keys, Function.comp_def] using (isExact_obj.mp h).1

theorem unorderedItems?_eq_none
    {items : List Json} (h : ∀ v ∈ items, v.unordered? = none) : unorderedItems? items = none := by
  induction items with
  | nil => rfl
  | cons v vs ih =>
      rw [List.forall_mem_cons] at h
      rw [unorderedItems?, h.1]
      exact ih h.2

theorem unorderedEntries?_eq_none
    {entries : List (Text × Json)} (h : ∀ e ∈ entries, e.2.unordered? = none) :
    unorderedEntries? entries = none := by
  induction entries with
  | nil => rfl
  | cons e es ih =>
      rw [List.forall_mem_cons] at h
      rw [unorderedEntries?, h.1]
      exact ih h.2

/-- The names in an exact value can be put in order. -/
theorem IsExact.unordered?_eq_none {v : Json} (hv : v.IsExact) : v.unordered? = none := by
  induction hv with
  | null | bool | int | str => rfl
  | arr _ ih => exact unorderedItems?_eq_none ih
  | obj _ _ ih => exact unorderedEntries?_eq_none ih

/-! ## Values that say the same -/

/-- One value comes from another by putting the names of objects in another order. -/
inductive Reordered : Json → Json → Prop where
  | refl (v : Json) : Reordered v v
  | trans {u v w : Json} (huv : Reordered u v) (hvw : Reordered v w) : Reordered u w
  | perm {s t : List (Text × Json)} (h : s.Perm t) : Reordered (obj s) (obj t)
  | item (s t : List Json) {v w : Json} (h : Reordered v w) :
      Reordered (arr (s ++ v :: t)) (arr (s ++ w :: t))
  | entry (s t : List (Text × Json)) (name : Text) {v w : Json} (h : Reordered v w) :
      Reordered (obj (s ++ (name, v) :: t)) (obj (s ++ (name, w) :: t))

namespace Reordered

theorem symm {v w : Json} (h : Reordered v w) : Reordered w v := by
  induction h with
  | refl v => exact .refl v
  | trans _ _ ihuv ihvw => exact ihvw.trans ihuv
  | perm h => exact .perm h.symm
  | item s t _ ih => exact .item s t ih
  | entry s t name _ ih => exact .entry s t name ih

theorem isExact {v w : Json} (h : Reordered v w) (hv : v.IsExact) : w.IsExact := by
  induction h with
  | refl => exact hv
  | trans _ _ ihuv ihvw => exact ihvw (ihuv hv)
  | perm h =>
      rw [isExact_obj] at hv ⊢
      refine ⟨(h.map Prod.fst).nodup_iff.mp hv.1, ?_⟩
      intro e he
      exact hv.2 e (h.symm.subset he)
  | item s t _ ih =>
      rw [isExact_arr, List.forall_mem_append, List.forall_mem_cons] at hv ⊢
      exact ⟨hv.1, ih hv.2.1, hv.2.2⟩
  | entry s t name _ ih =>
      rw [isExact_obj, List.forall_mem_append, List.forall_mem_cons] at hv ⊢
      refine ⟨?_, hv.2.1, ih hv.2.2.1, hv.2.2.2⟩
      simpa [Table.Distinct, Table.keys] using hv.1

/-- Values that say the same are the same in order. -/
theorem inOrder_eq {v w : Json} (h : Reordered v w) (hv : v.IsExact) : v.inOrder = w.inOrder := by
  induction h with
  | refl => rfl
  | trans huv _ ihuv ihvw => exact (ihuv hv).trans (ihvw (huv.isExact hv))
  | @perm s t h =>
      have hperm : (inOrderEntries s).Perm (inOrderEntries t) := by
        rw [inOrderEntries_eq_map, inOrderEntries_eq_map]
        exact h.map _
      rw [inOrder, inOrder, sortEntries_congr (distinct_inOrderEntries hv) hperm]
  | item s t _ ih =>
      rw [isExact_arr, List.forall_mem_append, List.forall_mem_cons] at hv
      simp only [inOrder, inOrderItems_eq_map, List.map_append, List.map_cons, ih hv.2.1]
  | entry s t name _ ih =>
      rw [isExact_obj, List.forall_mem_append, List.forall_mem_cons] at hv
      simp only [inOrder, inOrderEntries_eq_map, List.map_append, List.map_cons, ih hv.2.2.1]

/-- The items of a list may be replaced one after the other. -/
theorem items
    {f : Json → Json} (s : List Json) {items : List Json} (h : ∀ v ∈ items, Reordered v (f v)) :
    Reordered (arr (s ++ items)) (arr (s ++ items.map f)) := by
  induction items generalizing s with
  | nil => exact .refl _
  | cons v vs ih =>
      rw [List.forall_mem_cons] at h
      have hrest := ih (s ++ [f v]) h.2
      simp only [List.append_assoc, List.singleton_append] at hrest
      exact (Reordered.item s vs h.1).trans hrest

/-- The values of an object may be replaced one after the other. -/
theorem entries
    {f : Json → Json} (s : List (Text × Json)) {entries : List (Text × Json)}
    (h : ∀ e ∈ entries, Reordered e.2 (f e.2)) :
    Reordered (obj (s ++ entries)) (obj (s ++ entries.map fun e => (e.1, f e.2))) := by
  induction entries generalizing s with
  | nil => exact .refl _
  | cons e es ih =>
      rw [List.forall_mem_cons] at h
      have hrest := ih (s ++ [(e.1, f e.2)]) h.2
      simp only [List.append_assoc, List.singleton_append] at hrest
      exact (Reordered.entry s es e.1 h.1).trans hrest

/-- Putting a value in order only puts names in another order. -/
theorem inOrder {v : Json} (hv : v.IsExact) : Reordered v v.inOrder := by
  induction hv with
  | null | bool | int | str => exact .refl _
  | arr _ ih =>
      rw [Json.inOrder, inOrderItems_eq_map]
      exact items [] ih
  | obj _ _ ih =>
      rw [Json.inOrder, inOrderEntries_eq_map]
      exact (entries [] ih).trans (.perm (sortEntries_perm _).symm)

end Reordered

/-- Two values say the same exactly when they are the same in order. -/
theorem reordered_iff_inOrder_eq {v w : Json} (hv : v.IsExact) (hw : w.IsExact) :
    Reordered v w ↔ v.inOrder = w.inOrder := by
  constructor
  · intro h
    exact h.inOrder_eq hv
  · intro h
    have hvo : Reordered v w.inOrder := h ▸ Reordered.inOrder hv
    exact hvo.trans (Reordered.inOrder hw).symm

/-- Objects say the same when they have the same entries but for their order and the order
inside of them. -/
theorem reordered_obj_iff
    {s t : List (Text × Json)} (hs : (Json.obj s).IsExact) (ht : (Json.obj t).IsExact) :
    Reordered (.obj s) (.obj t) ↔ (inOrderEntries s).Perm (inOrderEntries t) := by
  rw [reordered_iff_inOrder_eq hs ht, inOrder, inOrder, Json.obj.injEq]
  constructor
  · intro h
    have hsort := sortEntries_perm (inOrderEntries s)
    rw [h] at hsort
    exact hsort.symm.trans (sortEntries_perm (inOrderEntries t))
  · intro h
    exact sortEntries_congr (distinct_inOrderEntries hs) h

/-- Objects with a first entry of the same name say the same when the values of these entries do,
and so do the other entries. -/
theorem reordered_obj_cons_iff
    {name : Text} {v w : Json} {s t : List (Text × Json)}
    (hs : (Json.obj ((name, v) :: s)).IsExact) (ht : (Json.obj ((name, w) :: t)).IsExact) :
    Reordered (.obj ((name, v) :: s)) (.obj ((name, w) :: t)) ↔
      Reordered v w ∧ Reordered (.obj s) (.obj t) := by
  obtain ⟨hsname, hv, hsrest⟩ := isExact_obj_cons.mp hs
  obtain ⟨htname, hw, htrest⟩ := isExact_obj_cons.mp ht
  rw [reordered_obj_iff hs ht, reordered_iff_inOrder_eq hv hw, reordered_obj_iff hsrest htrest,
    inOrderEntries, inOrderEntries]
  constructor
  · intro h
    have hmem : (name, v.inOrder) ∈ (name, w.inOrder) :: inOrderEntries t := h.subset (.head _)
    rcases List.mem_cons.mp hmem with hvw | hother
    · rw [hvw] at h
      exact ⟨(Prod.mk.inj hvw).2, h.cons_inv⟩
    · rw [inOrderEntries_eq_map] at hother
      obtain ⟨e, he, hename⟩ := List.mem_map.mp hother
      have hmem : e.1 ∈ Table.keys t := List.mem_map_of_mem he
      rw [(Prod.mk.inj hename).1] at hmem
      exact absurd hmem htname
  · rintro ⟨hvw, hrest⟩
    rw [hvw]
    exact hrest.cons _

end Json

end ArticleExport
