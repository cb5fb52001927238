import ArticleExport.Proofs.State.Frames
import ArticleExport.Proofs.Table

/-!
# Marking and unmarking an item

A push marks its item and takes the markers away when it has ended.  Where the
markers of the item were not there before, that leaves no trace at all: what is kept
is the same, down to the order in which it is kept.  The one trace that marking can
leave is that the store has an item of which it knew nothing before.
-/

namespace ArticleExport

namespace KeyTable

variable {α : Type} {key : Key} {t : KeyTable α}

/-- The key has no value, in any spelling. -/
def Lacks (key : Key) (t : KeyTable α) : Prop := ∀ e ∈ t, e.1.canonical ≠ key.canonical

theorem Lacks.set_eq (h : Lacks key t) (value : α) : set key value t = t ++ [(key, value)] := by
  induction t with
  | nil => rfl
  | cons e t ih =>
      obtain ⟨he, ht⟩ := List.forall_mem_cons.mp h
      rw [set, if_neg he, ih ht, List.cons_append]

theorem Lacks.erase_eq (h : Lacks key t) : erase key t = t := by
  refine List.filter_eq_self.mpr ?_
  intro e he
  simpa using h e he

theorem Lacks.erase_set (h : Lacks key t) (value : α) : erase key (set key value t) = t := by
  have hlast : erase key [(key, value)] = [] := by simp [erase]
  rw [h.set_eq, erase, List.filter_append]
  change erase key t ++ erase key [(key, value)] = t
  rw [h.erase_eq, hlast, List.append_nil]

theorem lacks_erase (key : Key) (t : KeyTable α) : Lacks key (erase key t) := by
  intro e he
  simpa using (List.mem_filter.mp he).2

theorem Lacks.erase (h : Lacks key t) (other : Key) : Lacks key (erase other t) :=
  fun e he => h e (List.mem_filter.mp he).1

theorem Lacks.set {other : Key} (h : Lacks key t) (hne : other.canonical ≠ key.canonical) (value : α) :
    Lacks key (set other value t) := by
  induction t with
  | nil =>
      intro e he
      obtain rfl := List.mem_singleton.mp he
      exact hne
  | cons e t ih =>
      obtain ⟨he, ht⟩ := List.forall_mem_cons.mp h
      rw [KeyTable.set]
      split
      · exact List.forall_mem_cons.mpr ⟨he, ht⟩
      · exact List.forall_mem_cons.mpr ⟨he, ih ht⟩

end KeyTable

namespace Holdings

variable {h : Holdings} {id key : Text}

/-- There is room for keys of an item; a file has room for those of any item. -/
def HasItem (id : Text) : Holdings → Prop
  | memory values _ => id ∈ Table.keys values
  | file _ _ => True

theorem nameFault?_set (h : Holdings) (id key t : Text) (names : List Key) :
    (h.set id key t).nameFault? names = h.nameFault? names := by
  cases h <;> rfl

theorem nameFault?_delete (h : Holdings) (id key : Text) (names : List Key) :
    (h.delete id (.text key)).nameFault? names = h.nameFault? names := by
  cases h with
  | memory values transients =>
      rw [Holdings.delete]
      cases Table.get? id values <;> rfl
  | file rows transients => rfl

theorem hasItem_set (h : Holdings) (id key t : Text) : (h.set id key t).HasItem id := by
  cases h with
  | memory values transients =>
      change id ∈ Table.keys (Table.set id _ values)
      rw [Table.keys_set]
      split
      · assumption
      · exact List.mem_append_right _ (List.mem_singleton_self id)
  | file rows transients => trivial

theorem HasItem.set (hid : h.HasItem id) (other key t : Text) :
    (h.set other key t).HasItem id := by
  cases h with
  | memory values transients =>
      change id ∈ Table.keys (Table.set other _ values)
      rw [Table.keys_set]
      split
      · exact hid
      · exact List.mem_append_left _ hid
  | file rows transients => trivial

theorem HasItem.delete (hid : h.HasItem id) (other key : Text) :
    (h.delete other (.text key)).HasItem id := by
  cases h with
  | memory values transients =>
      rw [Holdings.delete]
      cases Table.get? other values with
      | none => exact hid
      | some entries =>
          change id ∈ Table.keys (Table.set other _ values)
          rw [Table.keys_set]
          split
          · exact hid
          · exact List.mem_append_left _ hid
  | file rows transients => trivial

/-- There is room for keys of an item, and one of them has no value. -/
def Lacks (id key : Text) : Holdings → Prop
  | memory values _ =>
    ∃ entries, Table.get? id values = some entries ∧ KeyTable.Lacks (.text key) entries
  | file rows _ => ∀ r ∈ rows, ValueRow.isFor id key r = false

theorem HasItem.lacks_delete (hid : h.HasItem id) (key : Text) :
    (h.delete id (.text key)).Lacks id key := by
  cases h with
  | memory values transients =>
      cases hvalues : Table.get? id values with
      | none => exact absurd hid (Table.get?_eq_none_iff.mp hvalues)
      | some entries =>
          simp only [Holdings.delete, hvalues]
          exact ⟨_, by rw [Table.get?_set, if_pos rfl], KeyTable.lacks_erase _ _⟩
  | file rows transients =>
      intro r hr
      simpa using (List.mem_filter.mp hr).2

theorem Lacks.delete (h' : h.Lacks id key) (other : Text) :
    (h.delete id (.text other)).Lacks id key := by
  cases h with
  | memory values transients =>
      obtain ⟨entries, hvalues, hlacks⟩ := h'
      simp only [Holdings.delete, hvalues]
      exact ⟨_, by rw [Table.get?_set, if_pos rfl], hlacks.erase _⟩
  | file rows transients =>
      intro r hr
      exact h' r (List.mem_filter.mp hr).1

theorem Lacks.set {other : Text} (h' : h.Lacks id key) (hne : other ≠ key) (t : Text) :
    (h.set id other t).Lacks id key := by
  cases h with
  | memory values transients =>
      obtain ⟨entries, hvalues, hlacks⟩ := h'
      have hkeys : (Key.text other).canonical ≠ (Key.text key).canonical := by simpa using hne
      simp only [Holdings.set, hvalues, Option.getD_some]
      exact ⟨_, by rw [Table.get?_set, if_pos rfl], hlacks.set hkeys _⟩
  | file rows transients =>
      intro r hr
      rcases List.mem_append.mp hr with hr | hr
      · exact h' r (List.mem_filter.mp hr).1
      · obtain rfl := List.mem_singleton.mp hr
        simp [ValueRow.isFor, hne]

theorem Lacks.delete_eq (h' : h.Lacks id key) : h.delete id (.text key) = h := by
  cases h with
  | memory values transients =>
      obtain ⟨entries, hvalues, hlacks⟩ := h'
      simp only [Holdings.delete, hvalues, hlacks.erase_eq]
      rw [Table.set_of_get?_eq_some hvalues]
  | file rows transients =>
      have hrows : rows.filter (fun r => !ValueRow.isFor id key r) = rows := by
        refine List.filter_eq_self.mpr ?_
        intro r hr
        rw [h' r hr]
        rfl
      simp only [Holdings.delete, fileKey?, hrows]

/-- A key that had no value has left no trace when it is taken away again. -/
theorem Lacks.delete_set (h' : h.Lacks id key) (t : Text) :
    (h.set id key t).delete id (.text key) = h := by
  cases h with
  | memory values transients =>
      obtain ⟨entries, hvalues, hlacks⟩ := h'
      simp only [Holdings.set, Holdings.delete, hvalues, Option.getD_some, Table.get?_set, if_true,
        hlacks.erase_set, Table.set_set]
      rw [Table.set_of_get?_eq_some hvalues]
  | file rows transients =>
      have hrows : rows.filter (fun r => !ValueRow.isFor id key r) = rows := by
        refine List.filter_eq_self.mpr ?_
        intro r hr
        rw [h' r hr]
        rfl
      have hlast : ValueRow.isFor id key ⟨id, key, t⟩ = true := by simp [ValueRow.isFor]
      simp [Holdings.set, Holdings.delete, fileKey?, hrows, hlast]

end Holdings

namespace StateStore

variable {id : Text} {s : StateStore}

/-- There is room for markers of an item, and none is set. -/
structure IsClear (id : Text) (s : StateStore) : Prop where
  pending : s.holdings.Lacks id pendingKey
  inProgress : s.holdings.Lacks id inProgressKey

theorem isClear_clearMarkers (h : s.holdings.HasItem id) : IsClear id (s.clearMarkers id) :=
  ⟨(h.lacks_delete pendingKey).delete inProgressKey,
    (h.delete id pendingKey).lacks_delete inProgressKey⟩

/-- Marking and unmarking an item without markers leaves no trace. -/
theorem IsClear.clearMarkers_markInProgress (h : IsClear id s) :
    (s.markInProgress id).clearMarkers id = s := by
  have hpending : (s.holdings.set id inProgressKey s.stamp).delete id pendingKey =
      s.holdings.set id inProgressKey s.stamp :=
    (h.pending.set (by decide) s.stamp).delete_eq
  have hinProgress : (s.holdings.set id inProgressKey s.stamp).delete id inProgressKey =
      s.holdings :=
    h.inProgress.delete_set s.stamp
  simp only [markInProgress, clearMarkers, clearPending, clearInProgress, StateStore.set,
    StateStore.delete, hpending, hinProgress]

/-- What the store can be used for is the same, and it has forgotten no item altogether. -/
structure KeepsItems (s t : StateStore) : Prop where
  nameFault : ∀ names, t.nameFault? names = s.nameFault? names
  hasItem : ∀ id, s.holdings.HasItem id → t.holdings.HasItem id

namespace KeepsItems

variable {t u : StateStore}

theorem refl (s : StateStore) : KeepsItems s s :=
  ⟨fun _ => rfl, fun _ h => h⟩

theorem trans (hst : KeepsItems s t) (htu : KeepsItems t u) : KeepsItems s u := by
  constructor
  · intro names
    rw [htu.nameFault, hst.nameFault]
  · intro id h
    exact htu.hasItem id (hst.hasItem id h)

theorem set (s : StateStore) (id key x : Text) : KeepsItems s (s.set id key x) := by
  constructor
  · intro names
    exact s.holdings.nameFault?_set id key x names
  · intro item h
    exact h.set id key x

theorem delete (s : StateStore) (id key : Text) : KeepsItems s (s.delete id key) := by
  constructor
  · intro names
    exact s.holdings.nameFault?_delete id key names
  · intro item h
    exact h.delete id key

theorem clearMarkers (s : StateStore) (id : Text) : KeepsItems s (s.clearMarkers id) :=
  (delete s id pendingKey).trans (delete _ id inProgressKey)

theorem saveRecord (s : StateStore) (id : Text) (r : ArticleRecord) :
    KeepsItems s (s.saveRecord id r) := by
  have hidentity := (set s id remoteIdKey r.id).trans (set _ id revisionKey r.revision)
  have hdates := hidentity.trans <|
    (set _ id createdKey (r.createdAt.getD [])).trans
      (set _ id modifiedKey (r.modifiedAt.getD []))
  exact hdates.trans ((set _ id shareKey (r.shareUrl.getD [])).trans (delete _ id deletedKey))

theorem clearRemoteState (s : StateStore) (id : Text) : KeepsItems s (s.clearRemoteState id) := by
  unfold StateStore.clearRemoteState
  generalize remoteKeys ++ [checksumKey] = keys
  induction keys generalizing s with
  | nil => exact refl s
  | cons key keys ih => exact (delete s id key).trans (ih _)

end KeepsItems

/-- The store can be used for the same names, and a key reads the same at every item. -/
structure KeepsKey (key : Text) (s t : StateStore) : Prop where
  nameFault : ∀ names, t.nameFault? names = s.nameFault? names
  get : ∀ item : Text, t.get item key = s.get item key

namespace KeepsKey

variable {key other : Text} {t u : StateStore}

theorem refl (key : Text) (s : StateStore) : KeepsKey key s s :=
  ⟨fun _ => rfl, fun _ => rfl⟩

theorem trans (hst : KeepsKey key s t) (htu : KeepsKey key t u) : KeepsKey key s u :=
  ⟨fun names => (htu.nameFault names).trans (hst.nameFault names),
    fun item => (htu.get item).trans (hst.get item)⟩

theorem set (s : StateStore) (h : other ≠ key) (id x : Text) :
    KeepsKey key s (s.set id other x) :=
  ⟨(KeepsItems.set s id other x).nameFault, get_set_of_key_ne s h id x⟩

theorem delete (s : StateStore) (h : other ≠ key) (id : Text) :
    KeepsKey key s (s.delete id other) :=
  ⟨(KeepsItems.delete s id other).nameFault, get_delete_of_key_ne s h id⟩

theorem clearRemoteState (s : StateStore) (h : key ∉ identityKeys) (id : Text) :
    KeepsKey key s (s.clearRemoteState id) := by
  constructor
  · exact (KeepsItems.clearRemoteState s id).nameFault
  · intro item
    rw [get_clearRemoteState, if_neg fun hand => h hand.2]

theorem saveRecord (s : StateStore) (h : ∀ other ∈ deletedKey :: remoteKeys, other ≠ key)
    (id : Text) (r : ArticleRecord) : KeepsKey key s (s.saveRecord id r) := by
  have hidentity := (set s (h remoteIdKey (by decide)) id r.id).trans
    (set _ (h revisionKey (by decide)) id r.revision)
  have hdates := hidentity.trans <|
    (set _ (h createdKey (by decide)) id (r.createdAt.getD [])).trans
      (set _ (h modifiedKey (by decide)) id (r.modifiedAt.getD []))
  exact hdates.trans <| (set _ (h shareKey (by decide)) id (r.shareUrl.getD [])).trans
    (delete _ (h deletedKey List.mem_cons_self) id)

end KeepsKey

end StateStore

end ArticleExport
