import ArticleExport.Publish.State
import Mathlib.Tactic.Common

/-!
# What operations on the publish state leave alone

An operation on the publish state is known by what it lets one read afterwards.
The lemmas here give that for the operations of a push: what reads differently
at the item in question, and that every other item and every value kept for a
while reads as before.

`StateStore.SameButMarkers` is the relation between two states that differ in
nothing but the two markers of one item.
-/

namespace ArticleExport

namespace Holdings

/-- Setting a key shows at no key of another item. -/
theorem get_set_of_ne
    (h : Holdings) {id other : Text} (hne : id ≠ other) (key t : Text) (key' : Key) :
    (h.set id key t).get other key' = h.get other key' := by
  cases h with
  | memory values transients =>
      simp only [set, get, Table.get?_set, if_neg hne]
  | file rows transients =>
      simp only [set, get]
      cases fileKey? key' with
      | none => rfl
      | some key' =>
          have hnew : ValueRow.isFor other key' ⟨id, key, t⟩ = false := by
            simp [ValueRow.isFor, hne]
          dsimp only
          rw [List.find?_append, find?_filter_not_isFor, if_neg fun h => hne h.1]
          simp [hnew]

/-- Taking a key away shows at no key of another item. -/
theorem get_delete_of_ne
    (h : Holdings) {id other : Text} (hne : id ≠ other) (key : Text) (key' : Key) :
    (h.delete id (.text key)).get other key' = h.get other key' := by
  cases h with
  | memory values transients =>
      simp only [delete]
      cases Table.get? id values with
      | none => rfl
      | some entries => simp only [get, Table.get?_set, if_neg hne]
  | file rows transients =>
      have hkey : fileKey? (.text key) = some key := rfl
      simp only [delete, hkey, get]
      cases fileKey? key' with
      | none => rfl
      | some key' =>
          dsimp only
          rw [find?_filter_not_isFor, if_neg fun h => hne h.1]

theorem transient?_set (h : Holdings) (id key t : Text) (name : Key) :
    (h.set id key t).transient? name = h.transient? name := by
  cases h <;> rfl

theorem transient?_delete (h : Holdings) (id key : Text) (name : Key) :
    (h.delete id (.text key)).transient? name = h.transient? name := by
  cases h with
  | memory values transients =>
      simp only [delete]
      cases Table.get? id values <;> rfl
  | file rows transients => rfl

end Holdings

namespace StateStore

variable {items : List Text} {id : Text} {s t u : StateStore}

/-! ## One key -/

theorem get_set_self (s : StateStore) (id key x : Text) :
    (s.set id key x).get id key = .str x := by
  rw [get_set, if_pos ⟨rfl, rfl⟩]

theorem get_set_of_key_ne
    (s : StateStore) {key key' : Text} (h : key ≠ key') (id x item : Text) :
    (s.set id key x).get item key' = s.get item key' := by
  rw [get_set, if_neg fun hand => h hand.2]

theorem get_delete_of_key_ne
    (s : StateStore) {key key' : Text} (h : key ≠ key') (id item : Text) :
    (s.delete id key).get item key' = s.get item key' := by
  rw [get_delete, if_neg fun hand => h hand.2]

theorem get_saveRecord_remoteIdKey (s : StateStore) (id : Text) (r : ArticleRecord) :
    (s.saveRecord id r).get id remoteIdKey = .str r.id := by
  rw [saveRecord, get_delete_of_key_ne _ (by decide), get_set_of_key_ne _ (by decide),
    get_set_of_key_ne _ (by decide), get_set_of_key_ne _ (by decide),
    get_set_of_key_ne _ (by decide), get_set_self]

/-! ## Other items -/

/-- Nothing differs but keys of the given items. -/
structure TouchesOnly (items : List Text) (s t : StateStore) : Prop where
  get : ∀ item, item ∉ items → ∀ key : Key, t.get item key = s.get item key
  transient : ∀ name, t.holdings.transient? name = s.holdings.transient? name

namespace TouchesOnly

theorem refl (items : List Text) (s : StateStore) : TouchesOnly items s s :=
  ⟨fun _ _ _ => rfl, fun _ => rfl⟩

theorem trans (hst : TouchesOnly items s t) (htu : TouchesOnly items t u) :
    TouchesOnly items s u := by
  constructor
  · intro item hitem key
    rw [htu.get item hitem key, hst.get item hitem key]
  · intro name
    rw [htu.transient name, hst.transient name]

theorem set (hid : id ∈ items) (s : StateStore) (key x : Text) :
    TouchesOnly items s (s.set id key x) := by
  constructor
  · intro item hitem key'
    have hne : id ≠ item := ne_of_mem_of_not_mem hid hitem
    exact s.holdings.get_set_of_ne hne key x key'
  · intro name
    exact s.holdings.transient?_set id key x name

theorem delete (hid : id ∈ items) (s : StateStore) (key : Text) :
    TouchesOnly items s (s.delete id key) := by
  constructor
  · intro item hitem key'
    have hne : id ≠ item := ne_of_mem_of_not_mem hid hitem
    exact s.holdings.get_delete_of_ne hne key key'
  · intro name
    exact s.holdings.transient?_delete id key name

theorem markPending (hid : id ∈ items) (s : StateStore) :
    TouchesOnly items s (s.markPending id) :=
  set hid s _ _

theorem clearPending (hid : id ∈ items) (s : StateStore) :
    TouchesOnly items s (s.clearPending id) :=
  delete hid s _

theorem markInProgress (hid : id ∈ items) (s : StateStore) :
    TouchesOnly items s (s.markInProgress id) :=
  set hid s _ _

theorem clearMarkers (hid : id ∈ items) (s : StateStore) :
    TouchesOnly items s (s.clearMarkers id) :=
  (delete hid s _).trans (delete hid _ _)

theorem setRevision (hid : id ∈ items) (s : StateStore) (revision : Text) :
    TouchesOnly items s (s.setRevision id revision) :=
  set hid s _ _

theorem setChecksum (hid : id ∈ items) (s : StateStore) (fingerprint : Text) :
    TouchesOnly items s (s.setChecksum id fingerprint) :=
  set hid s _ _

theorem saveRecord (hid : id ∈ items) (s : StateStore) (r : ArticleRecord) :
    TouchesOnly items s (s.saveRecord id r) := by
  have hidentity := (set hid s remoteIdKey r.id).trans (set hid _ revisionKey r.revision)
  have hdates := hidentity.trans <|
    (set hid _ createdKey (r.createdAt.getD [])).trans
      (set hid _ modifiedKey (r.modifiedAt.getD []))
  exact hdates.trans ((set hid _ shareKey (r.shareUrl.getD [])).trans (delete hid _ deletedKey))

theorem foldl_delete (hid : id ∈ items) (keys : List Text) (s : StateStore) :
    TouchesOnly items s (keys.foldl (fun s (key : Text) => s.delete id key) s) := by
  induction keys generalizing s with
  | nil => exact refl items s
  | cons key keys ih => exact (delete hid s key).trans (ih _)

theorem clearRemoteState (hid : id ∈ items) (s : StateStore) :
    TouchesOnly items s (s.clearRemoteState id) :=
  foldl_delete hid _ s

end TouchesOnly

/-! ## Forgetting a remote article -/

theorem get_foldl_delete (keys : List Text) (s : StateStore) (id item key : Text) :
    (keys.foldl (fun s (key : Text) => s.delete id key) s).get item key =
      if id = item ∧ key ∈ keys then .null else s.get item key := by
  induction keys generalizing s with
  | nil => simp
  | cons k keys ih =>
      rw [List.foldl_cons, ih, get_delete]
      by_cases hitem : id = item
      · by_cases hkey : key ∈ keys
        · simp [hitem, hkey]
        · simp [hitem, hkey, eq_comm]
      · simp [hitem]

/-- The keys of what is known about the remote article of an item, and of what
was last accepted for it. -/
def identityKeys : List Text := remoteKeys ++ [checksumKey]

theorem remoteIdKey_mem_identityKeys : remoteIdKey ∈ identityKeys :=
  List.mem_append_left _ List.mem_cons_self

theorem checksumKey_mem_identityKeys : checksumKey ∈ identityKeys :=
  List.mem_append_right _ (List.mem_singleton_self checksumKey)

/-- A forgotten remote article leaves no identity and no fingerprint behind. -/
theorem get_clearRemoteState (s : StateStore) (id item key : Text) :
    (s.clearRemoteState id).get item key =
      if id = item ∧ key ∈ identityKeys then .null else s.get item key :=
  get_foldl_delete _ s id item key

/-! ## Markers -/

/-- The keys of the markers of an item. -/
def markerKeys : List Text := [pendingKey, inProgressKey]

theorem not_mem_markerKeys_of_mem_identityKeys {key : Text} (h : key ∈ identityKeys) :
    key ∉ markerKeys := by
  revert key
  decide

theorem remoteIdKey_not_mem_markerKeys : remoteIdKey ∉ markerKeys :=
  not_mem_markerKeys_of_mem_identityKeys remoteIdKey_mem_identityKeys

theorem checksumKey_not_mem_markerKeys : checksumKey ∉ markerKeys :=
  not_mem_markerKeys_of_mem_identityKeys checksumKey_mem_identityKeys

/-- The two states read the same at every key that is not a marker. -/
def SameButMarkers (s t : StateStore) : Prop :=
  ∀ item key : Text, key ∉ markerKeys → t.get item key = s.get item key

namespace SameButMarkers

theorem refl (s : StateStore) : SameButMarkers s s :=
  fun _ _ _ => rfl

theorem symm (hst : SameButMarkers s t) : SameButMarkers t s :=
  fun item key hkey => (hst item key hkey).symm

theorem trans (hst : SameButMarkers s t) (htu : SameButMarkers t u) : SameButMarkers s u :=
  fun item key hkey => (htu item key hkey).trans (hst item key hkey)

theorem of_set (s : StateStore) {key : Text} (hkey : key ∈ markerKeys) (id x : Text) :
    SameButMarkers s (s.set id key x) := by
  intro item key' hkey'
  have hne : key ≠ key' := ne_of_mem_of_not_mem hkey hkey'
  exact get_set_of_key_ne s hne id x item

theorem of_delete (s : StateStore) {key : Text} (hkey : key ∈ markerKeys) (id : Text) :
    SameButMarkers s (s.delete id key) := by
  intro item key' hkey'
  have hne : key ≠ key' := ne_of_mem_of_not_mem hkey hkey'
  exact get_delete_of_key_ne s hne id item

theorem of_markPending (s : StateStore) (id : Text) : SameButMarkers s (s.markPending id) :=
  of_set s List.mem_cons_self id _

theorem of_clearPending (s : StateStore) (id : Text) : SameButMarkers s (s.clearPending id) :=
  of_delete s List.mem_cons_self id

theorem of_markInProgress (s : StateStore) (id : Text) :
    SameButMarkers s (s.markInProgress id) :=
  of_set s (List.mem_cons_of_mem _ List.mem_cons_self) id _

theorem of_clearMarkers (s : StateStore) (id : Text) : SameButMarkers s (s.clearMarkers id) :=
  (of_clearPending s id).trans (of_delete _ (List.mem_cons_of_mem _ List.mem_cons_self) id)

theorem set (h : SameButMarkers s t) (id key x : Text) :
    SameButMarkers (s.set id key x) (t.set id key x) := by
  intro item key' hkey'
  rw [get_set, get_set, h item key' hkey']

theorem delete (h : SameButMarkers s t) (id key : Text) :
    SameButMarkers (s.delete id key) (t.delete id key) := by
  intro item key' hkey'
  rw [get_delete, get_delete, h item key' hkey']

theorem setRevision (h : SameButMarkers s t) (id revision : Text) :
    SameButMarkers (s.setRevision id revision) (t.setRevision id revision) :=
  h.set id _ _

theorem clearRemoteState (h : SameButMarkers s t) (id : Text) :
    SameButMarkers (s.clearRemoteState id) (t.clearRemoteState id) := by
  intro item key hkey
  rw [get_clearRemoteState, get_clearRemoteState, h item key hkey]

theorem remoteState_eq (h : SameButMarkers s t) (item : Text) :
    t.remoteState item = s.remoteState item := by
  have hread : ∀ key ∈ remoteKeys, t.getOrEmpty item key = s.getOrEmpty item key := by
    intro key hkey
    have hidentity : key ∈ identityKeys := List.mem_append_left _ hkey
    rw [getOrEmpty, getOrEmpty,
      h item key (not_mem_markerKeys_of_mem_identityKeys hidentity)]
  rw [remoteState, remoteState, hread remoteIdKey (by simp [remoteKeys]),
    hread revisionKey (by simp [remoteKeys]), hread createdKey (by simp [remoteKeys]),
    hread modifiedKey (by simp [remoteKeys]), hread shareKey (by simp [remoteKeys])]

end SameButMarkers

end StateStore

end ArticleExport
