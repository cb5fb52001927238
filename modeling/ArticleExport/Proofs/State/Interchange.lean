import ArticleExport.Proofs.State.Frames
import ArticleExport.Publish.StateOp

/-!
# Memory and file are interchangeable

Memory keeps a table of keys for each item, and keeps the emptied ones; a file keeps one
flat list of rows.  The two are related by what can be read from them: `Mirrors` says that
the same is found at every text, and each operation keeps it.  Nothing in the relation
says which of the two is the memory, so an operation is looked at once for both, through
the law of what can be read after it.  The revision of an article and the fingerprint of an
item are values of keys: to set or to read one is to put or to get it.

A file keeps texts that have a byte form, and times that are floating-point numbers.
`StateOp.IsPlain` and `StateOp.ExpiresIn` say that an operation gives it no others.  The
second is about the time at which a value expires and not about the reading of the clock:
a whole reading that is a floating-point number can lead to a time that is none.
-/

namespace ArticleExport

/-- A file keeps the time as it is. -/
def Seconds.FitsFile : Seconds → Prop
  | .real x => x.isNaN = false
  | .whole n => (-Holdings.wholeBound ≤ n ∧ n < Holdings.wholeBound) ∧ Holdings.isBinary n = true

namespace Holdings

theorem fileTime_of_fitsFile {time : Seconds} (h : time.FitsFile) : fileTime time = .ok time := by
  cases time with
  | real x =>
      change x.isNaN = false at h
      rw [fileTime, h]
      rfl
  | whole n => rw [fileTime, if_pos h.1, if_pos h.2]

theorem fileText_of_isScalar {t : Text} (h : t.IsScalar) : fileText (.str t) = .ok t := by
  have hkey : keyFault? (.text t) = none := if_pos h
  rw [fileText]
  dsimp only [Json.key?, fileKey?]
  rw [hkey]

/-- Texts that have a byte form can be used as names anywhere. -/
theorem nameFault?_eq_none (h : Holdings) {names : List Key}
    (hnames : ∀ k ∈ names, ∃ t : Text, k = .text t ∧ t.IsScalar) :
    h.nameFault? names = none := by
  cases h with
  | memory values transients => rfl
  | file rows transients =>
      refine List.findSome?_eq_none_iff.mpr ?_
      intro k hk
      obtain ⟨t, rfl, ht⟩ := hnames k hk
      exact if_pos ht

/-! ## What can be read after a change -/

theorem put_text (h : Holdings) (id key : Text) {t : Text} (ht : t.IsScalar) :
    h.put id (.text key) (.str t) = .ok (h.set id key t) := by
  cases h with
  | memory values transients => rfl
  | file rows transients =>
      rw [put, fileText_of_isScalar ht]
      rfl

/-- A row among those of other names. -/
theorem find?_filter_name (rows : List TransientRow) (name name' : Text) :
    (rows.filter fun r => r.name != name).find? (fun r => some name' == some r.name) =
      if name = name' then none else rows.find? fun r => some name' == some r.name := by
  rw [List.find?_filter]
  by_cases hname : name = name'
  · rw [if_pos hname, List.find?_eq_none]
    grind
  · rw [if_neg hname]
    congr 1
    funext r
    grind

theorem transient?_deleteTransient (h : Holdings) (name name' : Text) :
    (h.deleteTransient (.text name)).transient? (.text name') =
      if name = name' then none else h.transient? (.text name') := by
  cases h with
  | memory values transients =>
      rw [deleteTransient, transient?, KeyTable.get?_erase]
      simp only [Key.canonical_text, Key.text.injEq]
      rfl
  | file rows transients =>
      have hrows : (transients.filter fun r => some name != some r.name) =
          transients.filter fun r => r.name != name := by
        congr 1
        funext r
        grind
      simp only [deleteTransient, transient?, fileKey?, hrows, find?_filter_name]
      split <;> rfl

/-- A text that is put under a name shows there until it expires, and nothing else
changes. -/
theorem exists_putTransient (h : Holdings) (name : Text) {t : Text} (ht : t.IsScalar)
    {expires : Seconds} (hexpires : expires.FitsFile) :
    ∃ h', h.putTransient (.text name) (.str t) expires = .ok h' ∧
      (∀ (id : Text) (key : Key), h'.get id key = h.get id key) ∧
        ∀ name' : Text, h'.transient? (.text name') =
          if name = name' then some ⟨.str t, expires⟩ else h.transient? (.text name') := by
  cases h with
  | memory values transients =>
      refine ⟨_, rfl, fun _ _ => rfl, ?_⟩
      intro name'
      rw [transient?, KeyTable.get?_set]
      simp only [Key.canonical_text, Key.text.injEq]
      rfl
  | file rows transients =>
      have hput : (file rows transients).putTransient (.text name) (.str t) expires =
          .ok (file rows
            (transients.filter (fun r => r.name != name) ++ [⟨name, t, expires⟩])) := by
        rw [putTransient, fileText_of_isScalar ht, fileTime_of_fitsFile hexpires]
        rfl
      refine ⟨_, hput, fun _ _ => rfl, ?_⟩
      intro name'
      simp only [transient?, fileKey?, List.find?_append, find?_filter_name]
      by_cases hname : name = name'
      · subst hname
        simp
      · have hnew : (some name' == some name) = false := by simpa using Ne.symm hname
        rw [if_neg hname, if_neg hname, List.find?_singleton, hnew]
        simp

/-! ## The relation -/

/-- The same is found in both at every text. -/
structure Mirrors (h k : Holdings) : Prop where
  get : ∀ id key : Text, h.get id (.text key) = k.get id (.text key)
  transient : ∀ name : Text, h.transient? (.text name) = k.transient? (.text name)

theorem mirrors_inMemory_inFile : Mirrors inMemory inFile :=
  ⟨fun _ _ => rfl, fun _ => rfl⟩

namespace Mirrors

variable {h k : Holdings}

theorem set (hm : Mirrors h k) (id key t : Text) : Mirrors (h.set id key t) (k.set id key t) := by
  constructor
  · intro id' key'
    rw [get_set, get_set, hm.get]
  · intro name
    rw [transient?_set, transient?_set, hm.transient]

theorem delete (hm : Mirrors h k) (id key : Text) :
    Mirrors (h.delete id (.text key)) (k.delete id (.text key)) := by
  constructor
  · intro id' key'
    rw [get_delete, get_delete, hm.get]
  · intro name
    rw [transient?_delete, transient?_delete, hm.transient]

theorem deleteTransient (hm : Mirrors h k) (name : Text) :
    Mirrors (h.deleteTransient (.text name)) (k.deleteTransient (.text name)) := by
  constructor
  · intro id key
    have hkept : ∀ l : Holdings, (l.deleteTransient (.text name)).get id (.text key) =
        l.get id (.text key) := by
      intro l
      cases l <;> rfl
    rw [hkept, hkept, hm.get]
  · intro name'
    rw [transient?_deleteTransient, transient?_deleteTransient, hm.transient]

theorem exists_putTransient (hm : Mirrors h k) (name : Text) {t : Text} (ht : t.IsScalar)
    {expires : Seconds} (hexpires : expires.FitsFile) :
    ∃ h' k', h.putTransient (.text name) (.str t) expires = .ok h' ∧
      k.putTransient (.text name) (.str t) expires = .ok k' ∧ Mirrors h' k' := by
  obtain ⟨h', hput, hget, htransient⟩ := h.exists_putTransient name ht hexpires
  obtain ⟨k', kput, kget, ktransient⟩ := k.exists_putTransient name ht hexpires
  refine ⟨h', k', hput, kput, ?_, ?_⟩
  · intro id key
    rw [hget, kget, hm.get]
  · intro name'
    rw [htransient, ktransient, hm.transient]

end Mirrors

end Holdings

namespace StateStore

/-- The same is found in both at every text, at the same time. -/
structure Mirrors (s t : StateStore) : Prop where
  now : s.now = t.now
  holdings : s.holdings.Mirrors t.holdings

namespace Mirrors

variable {s t : StateStore}

theorem atTime (hm : Mirrors s t) (now : Seconds) :
    Mirrors { s with now := now } { t with now := now } :=
  ⟨rfl, hm.holdings⟩

theorem get_eq (hm : Mirrors s t) (id key : Text) : s.get id (.text key) = t.get id (.text key) :=
  hm.holdings.get id key

theorem set (hm : Mirrors s t) (id key x : Text) : Mirrors (s.set id key x) (t.set id key x) :=
  ⟨hm.now, hm.holdings.set id key x⟩

theorem delete (hm : Mirrors s t) (id key : Text) :
    Mirrors (s.delete id (.text key)) (t.delete id (.text key)) :=
  ⟨hm.now, hm.holdings.delete id key⟩

theorem stamp_eq (hm : Mirrors s t) : s.stamp = t.stamp := by
  rw [stamp, stamp, hm.now]

theorem remoteState_eq (hm : Mirrors s t) (id : Text) : s.remoteState id = t.remoteState id := by
  simp only [remoteState, getOrEmpty, hm.get_eq]

theorem saveRecord (hm : Mirrors s t) (id : Text) (r : ArticleRecord) :
    Mirrors (s.saveRecord id r) (t.saveRecord id r) :=
  (((((hm.set id _ _).set id _ _).set id _ _).set id _ _).set id _ _).delete id _

theorem clearRemoteState (hm : Mirrors s t) (id : Text) :
    Mirrors (s.clearRemoteState id) (t.clearRemoteState id) := by
  unfold StateStore.clearRemoteState
  generalize remoteKeys ++ [checksumKey] = keys
  induction keys generalizing s t with
  | nil => exact hm
  | cons key keys ih => exact ih (hm.delete id key)

theorem clearMarkers (hm : Mirrors s t) (id : Text) :
    Mirrors (s.clearMarkers id) (t.clearMarkers id) :=
  (hm.delete id _).delete id _

/-- Looking up a value may drop it, and drops it from both. -/
theorem transient (hm : Mirrors s t) (name : Text) :
    (s.transient (.text name)).1 = (t.transient (.text name)).1 ∧
      Mirrors (s.transient (.text name)).2 (t.transient (.text name)).2 := by
  rw [StateStore.transient, StateStore.transient, hm.holdings.transient name]
  cases t.holdings.transient? (.text name) with
  | none => exact ⟨rfl, hm⟩
  | some kept =>
      dsimp only
      rw [← hm.now]
      split
      · exact ⟨rfl, rfl, hm.holdings.deleteTransient name⟩
      · exact ⟨rfl, hm⟩

end Mirrors

end StateStore

namespace StateOp

/-- A text that has a byte form. -/
def IsName (k : Key) : Prop := ∃ t : Text, k = .text t ∧ t.IsScalar

/-- A value that is a text and has a byte form. -/
def IsText (v : Json) : Prop := ∃ t : Text, v = .str t ∧ t.IsScalar

/-- The operation uses no names and gives no values but texts that have a byte form. -/
def IsPlain : StateOp → Prop
  | get id key | delete id key => id.IsScalar ∧ IsName key
  | put id key v => id.IsScalar ∧ IsName key ∧ IsText v
  | transient name | deleteTransient name => IsName name
  | putTransient name v _ => IsName name ∧ IsText v
  | saveRecord id r => id.IsScalar ∧ ∀ p ∈ r.toTable, p.2 = .null ∨ IsText p.2
  | clearRemoteState id | remoteState id | mark _ id | isMarked _ id | unmark _ id
  | clearMarkers id => id.IsScalar
  | advance _ => True

/-- A value that the operation keeps for a while expires at a time that a file keeps as it
is, if the clock reads so. -/
def ExpiresIn (reading : Seconds) : StateOp → Prop
  | putTransient _ _ span => ∀ time, reading.add? span = some time → time.FitsFile
  | _ => True

variable {s t : StateStore} {op : StateOp}

theorem IsPlain.names (h : op.IsPlain) : ∀ k ∈ op.names, IsName k := by
  cases op with
  | get id key =>
      exact List.forall_mem_cons.mpr ⟨⟨id, rfl, h.1⟩, List.forall_mem_singleton.mpr h.2⟩
  | delete id key =>
      exact List.forall_mem_cons.mpr ⟨⟨id, rfl, h.1⟩, List.forall_mem_singleton.mpr h.2⟩
  | put id key v =>
      exact List.forall_mem_cons.mpr ⟨⟨id, rfl, h.1⟩, List.forall_mem_singleton.mpr h.2.1⟩
  | transient name => exact List.forall_mem_singleton.mpr h
  | deleteTransient name => exact List.forall_mem_singleton.mpr h
  | putTransient name v span => exact List.forall_mem_singleton.mpr h.1
  | saveRecord id r => exact List.forall_mem_singleton.mpr ⟨id, rfl, h.1⟩
  | advance span => nofun
  | _ => exact List.forall_mem_singleton.mpr ⟨_, rfl, h⟩

/-- Results and states of an operation on two states: the same result, and states that
mirror each other. -/
def Agree (r r' : StateStore × Except Fault Json) : Prop := r.2 = r'.2 ∧ r.1.Mirrors r'.1

/-- What an operation does to two states that mirror each other. -/
theorem agree_apply (hm : s.Mirrors t) (hplain : op.IsPlain) (hexpires : op.ExpiresIn s.now) :
    Agree (apply s op) (apply t op) := by
  cases op with
  | get id key =>
      obtain ⟨-, key, rfl, -⟩ := hplain
      exact ⟨congrArg Except.ok (hm.get_eq id key), hm⟩
  | put id key v =>
      obtain ⟨-, ⟨key, rfl, -⟩, x, rfl, hx⟩ := hplain
      rw [apply, apply, StateStore.put, StateStore.put, Holdings.put_text _ _ _ hx,
        Holdings.put_text _ _ _ hx]
      exact ⟨rfl, hm.set id key x⟩
  | delete id key =>
      obtain ⟨-, key, rfl, -⟩ := hplain
      exact ⟨rfl, hm.delete id key⟩
  | transient name =>
      obtain ⟨name, rfl, -⟩ := hplain
      obtain ⟨hvalue, hstate⟩ := hm.transient name
      exact ⟨congrArg Except.ok hvalue, hstate⟩
  | putTransient name v span =>
      obtain ⟨⟨name, rfl, -⟩, x, rfl, hx⟩ := hplain
      rw [apply, apply, StateStore.putTransient, StateStore.putTransient, StateStore.later,
        StateStore.later, ← hm.now]
      cases htime : s.now.add? span with
      | none => exact ⟨rfl, hm⟩
      | some time =>
          obtain ⟨h', k', hput, kput, hmirrors⟩ :=
            hm.holdings.exists_putTransient name hx (hexpires time htime)
          dsimp only [bind, Except.bind]
          rw [hput, kput]
          exact ⟨rfl, rfl, hmirrors⟩
  | deleteTransient name =>
      obtain ⟨name, rfl, -⟩ := hplain
      exact ⟨rfl, hm.now, hm.holdings.deleteTransient name⟩
  | saveRecord id r => exact ⟨rfl, hm.saveRecord id r⟩
  | clearRemoteState id => exact ⟨rfl, hm.clearRemoteState id⟩
  | remoteState id =>
      rw [apply, apply, hm.remoteState_eq id]
      exact ⟨rfl, hm⟩
  | mark m id =>
      cases m with
      | pending =>
          rw [apply, apply, StateStore.markPending, StateStore.markPending, hm.stamp_eq]
          exact ⟨rfl, hm.set id _ _⟩
      | inProgress =>
          rw [apply, apply, StateStore.markInProgress, StateStore.markInProgress, hm.stamp_eq]
          exact ⟨rfl, hm.set id _ _⟩
  | isMarked m id =>
      cases m with
      | pending =>
          rw [apply, apply, StateStore.isPending, StateStore.isPending, hm.get_eq]
          exact ⟨rfl, hm⟩
      | inProgress =>
          rw [apply, apply, StateStore.isInProgress, StateStore.isInProgress, hm.get_eq]
          exact ⟨rfl, hm⟩
  | unmark m id =>
      cases m with
      | pending => exact ⟨rfl, hm.delete id _⟩
      | inProgress => exact ⟨rfl, hm.delete id _⟩
  | clearMarkers id => exact ⟨rfl, hm.clearMarkers id⟩
  | advance span =>
      rw [apply, apply, StateStore.advance, StateStore.advance, StateStore.later, StateStore.later,
        ← hm.now]
      cases s.now.add? span with
      | none => exact ⟨rfl, hm⟩
      | some time => exact ⟨rfl, hm.atTime time⟩

theorem agree_run (hm : s.Mirrors t) (hplain : op.IsPlain) (hexpires : op.ExpiresIn s.now) :
    Agree (run s op) (run t op) := by
  have hs : s.nameFault? op.names = none := s.holdings.nameFault?_eq_none hplain.names
  have ht : t.nameFault? op.names = none := t.holdings.nameFault?_eq_none hplain.names
  rw [run, run, hs, ht]
  exact agree_apply hm hplain hexpires

/-- The results of operations, each of them run when the clock reads the time beside it. -/
def results : StateStore → List (Seconds × StateOp) → List (Except Fault Json)
  | _, [] => []
  | s, (reading, op) :: rest =>
    (run { s with now := reading } op).2 :: results (run { s with now := reading } op).1 rest

theorem results_eq_of_mirrors (hm : s.Mirrors t) (ops : List (Seconds × StateOp))
    (hplain : ∀ o ∈ ops, o.2.IsPlain) (hexpires : ∀ o ∈ ops, o.2.ExpiresIn o.1) :
    results s ops = results t ops := by
  induction ops generalizing s t with
  | nil => rfl
  | cons o ops ih =>
      obtain ⟨reading, op⟩ := o
      obtain ⟨hop, hops⟩ := List.forall_mem_cons.mp hplain
      obtain ⟨hin, hins⟩ := List.forall_mem_cons.mp hexpires
      obtain ⟨hresult, hstate⟩ := agree_run (hm.atTime reading) hop hin
      rw [results, results, hresult, ih hstate hops hins]

/-- Operations on texts that have a byte form have the same results in memory and in a file,
whatever the clock reads at each of them, as long as values expire at times that a file
keeps. -/
theorem results_inMemory_eq_inFile (now : Seconds) (ops : List (Seconds × StateOp))
    (hplain : ∀ o ∈ ops, o.2.IsPlain) (hexpires : ∀ o ∈ ops, o.2.ExpiresIn o.1) :
    results ⟨now, .inMemory⟩ ops = results ⟨now, .inFile⟩ ops := by
  have hempty : StateStore.Mirrors ⟨now, .inMemory⟩ ⟨now, .inFile⟩ :=
    ⟨rfl, Holdings.mirrors_inMemory_inFile⟩
  exact results_eq_of_mirrors hempty ops hplain hexpires

/-- A key that is set and taken away, a mark, and a value that is looked up while it is kept,
after it has expired, and once more when the clock has gone back. -/
def keptAndExpired : List (Seconds × StateOp) :=
  [(.whole 1000, .put "1" "k" (.str "v")), (.whole 1000, .delete "1" "k"),
    (.whole 1001, .get "1" "k"), (.whole 1001, .mark .pending "1"),
    (.whole 1002, .putTransient "t" (.str "v") (.whole 5)), (.whole 1003, .transient "t"),
    (.whole 1007, .transient "t"), (.whole 1003, .transient "t")]

theorem results_keptAndExpired_inMemory_eq_inFile :
    ((∀ o ∈ keptAndExpired, o.2.IsPlain) ∧ ∀ o ∈ keptAndExpired, o.2.ExpiresIn o.1) ∧
      results ⟨.whole 1000, .inMemory⟩ keptAndExpired =
        results ⟨.whole 1000, .inFile⟩ keptAndExpired := by
  have hid : Text.IsScalar "1" := by decide
  have hkey : IsName "k" := ⟨"k", rfl, by decide⟩
  have hname : IsName "t" := ⟨"t", rfl, by decide⟩
  have hvalue : IsText (.str "v") := ⟨"v", rfl, by decide⟩
  have hplain : ∀ o ∈ keptAndExpired, o.2.IsPlain := by
    simp only [keptAndExpired, List.forall_mem_cons]
    exact ⟨⟨hid, hkey, hvalue⟩, ⟨hid, hkey⟩, ⟨hid, hkey⟩, hid, ⟨hname, hvalue⟩, hname, hname, hname,
      nofun⟩
  have hexpires : ∀ o ∈ keptAndExpired, o.2.ExpiresIn o.1 := by
    simp only [keptAndExpired, List.forall_mem_cons]
    refine ⟨trivial, trivial, trivial, trivial, ?_, trivial, trivial, trivial, nofun⟩
    intro time htime
    obtain rfl := Option.some.inj htime
    exact ⟨by decide, by decide +kernel⟩
  exact ⟨⟨hplain, hexpires⟩, results_inMemory_eq_inFile _ _ hplain hexpires⟩

/-- A value that is to be kept from a reading of the clock on that is a floating-point
number and has too many digits for a file: it is kept in memory only. -/
theorem results_inMemory_ne_inFile_at_wholeBound :
    IsPlain (.putTransient "t" (.str "v") (.whole 0)) ∧
      Holdings.isBinary Holdings.wholeBound = true ∧
        results ⟨.whole Holdings.wholeBound, .inMemory⟩
            [(.whole Holdings.wholeBound, .putTransient "t" (.str "v") (.whole 0))] =
          [.ok .null] ∧
        results ⟨.whole Holdings.wholeBound, .inFile⟩
            [(.whole Holdings.wholeBound, .putTransient "t" (.str "v") (.whole 0))] =
          [.error .oversizedNumber] := by
  have hname : IsName "t" := ⟨"t", rfl, by decide⟩
  have hvalue : IsText (.str "v") := ⟨"v", rfl, by decide⟩
  exact ⟨⟨hname, hvalue⟩, by decide +kernel, rfl, rfl⟩

end StateOp

end ArticleExport
