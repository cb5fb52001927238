import ArticleExport.Proofs.Json.Reordering
import ArticleExport.Proofs.Table
import ArticleExport.Theme.Store

/-!
# Theme stores that are changed

A store refers to its themes by name: the active one and those of the sections.  Calls that name an
unknown theme fail, and themes are replaced but never taken out, so whatever is done to a store every
name that it refers to is that of a theme.  What it shows can be read off the list of the themes that
were registered and of the calls that did not fail: for themes and sections the last one of a name
counts.
-/

namespace ArticleExport.ThemeStore

/-- A call that changes a store. -/
inductive Call where
  /-- Registers a theme. -/
  | add (t : Theme)
  /-- Makes a theme the active one. -/
  | setActive (name : Text)
  /-- Gives a section a theme. -/
  | mapSection (section_ : Key) (name : Text)
  /-- Registers the themes of a directory. -/
  | loadDirectory (directory : Option (Table Text))

/-- The store that counts after a call that may fail: the old one where it does. -/
def keeping (s : ThemeStore) : Except Fault ThemeStore → ThemeStore × Option Fault
  | .ok s' => (s', none)
  | .error f => (s, some f)

/-- The store after a call, and what went wrong. -/
def call (s : ThemeStore) : Call → ThemeStore × Option Fault
  | .add t => (s.add t, none)
  | .setActive name => s.keeping (s.setActive name)
  | .mapSection section_ name => s.keeping (s.mapSection section_ name)
  | .loadDirectory directory =>
    match s.loadDirectory directory with
    | (s', .ok _) => (s', none)
    | (s', .error f) => (s', some f)

/-- A store that calls are made on. -/
structure Session where
  /-- The store as it is. -/
  store : ThemeStore
  /-- The calls that did not fail, in order. -/
  done : List Call

/-- The session after one call more. -/
def Session.next (u : Session) (c : Call) : Session where
  store := (u.store.call c).1
  done := if (u.store.call c).2.isNone then u.done ++ [c] else u.done

/-- The session of calls on a store. -/
def session (s : ThemeStore) (calls : List Call) : Session := calls.foldl Session.next ⟨s, []⟩

/-! ## What is registered -/

/-- The themes of files up to the first that cannot be read. -/
def readable : List (Text × Text) → List Theme
  | [] => []
  | (_, text) :: files =>
    match Theme.ofFile text with
    | .ok t => t :: readable files
    | .error _ => []

/-- The themes that a call registers, in order, those of a directory that fails to load included. -/
def Call.themes : Call → List Theme
  | .add t => [t]
  | .loadDirectory (some directory) => readable (themeFiles directory)
  | _ => []

/-- The name that a call makes the active one. -/
def Call.active? : Call → Option Text
  | .setActive name => some name
  | _ => none

/-- The name that a call gives a section. -/
def Call.mapped? (section_ : Key) : Call → Option Text
  | .mapSection other name => if other.canonical = section_.canonical then some name else none
  | _ => none

/-- The name that was made the active one last. -/
def lastActive? (done : List Call) : Option Text := done.reverse.findSome? Call.active?

/-- The name that a section was given last. -/
def lastMapped? (done : List Call) (section_ : Key) : Option Text :=
  done.reverse.findSome? (Call.mapped? section_)

/-- The theme of a name that was registered last. -/
def lastRegistered? (registered : List Theme) (name : Text) : Option Theme :=
  registered.reverse.find? fun t => t.name = name

theorem foldl_add (s : ThemeStore) (ts : List Theme) :
    ts.foldl add s = { s with themes := ts.foldl (fun acc t => Table.set t.name t acc) s.themes } := by
  induction ts generalizing s with
  | nil => rfl
  | cons t ts ih => rw [List.foldl_cons, ih, List.foldl_cons, add]

/-- A table shows the themes that were registered in it. -/
structure Lists (themes : Table Theme) (registered : List Theme) : Prop where
  keys : Table.keys themes = (registered.map Theme.name).eraseDups
  get? : ∀ name, Table.get? name themes = lastRegistered? registered name

theorem Lists.nil : Lists [] [] := ⟨rfl, fun _ => rfl⟩

theorem Lists.concat {themes : Table Theme} {registered : List Theme} (h : Lists themes registered)
    (t : Theme) : Lists (Table.set t.name t themes) (registered ++ [t]) where
  keys := by
    rw [List.map_append]
    exact Table.keys_set_of_eq_eraseDups h.keys t.name t
  get? name := by
    rw [Table.get?_set, h.get?, lastRegistered?, lastRegistered?, List.reverse_concat]
    by_cases hname : t.name = name
    · rw [if_pos hname, List.find?_cons_of_pos (by simpa using hname)]
    · rw [if_neg hname, List.find?_cons_of_neg (by simpa using hname)]

theorem Lists.foldl {themes : Table Theme} {registered : List Theme} (h : Lists themes registered)
    (ts : List Theme) :
    Lists (ts.foldl (fun acc t => Table.set t.name t acc) themes) (registered ++ ts) := by
  induction ts generalizing themes registered with
  | nil =>
      rw [List.append_nil]
      exact h
  | cons t ts ih =>
      have hrest := ih (h.concat t)
      rw [List.append_assoc] at hrest
      exact hrest

/-- The names of a table that shows registered themes. -/
theorem Lists.mem_keys {themes : Table Theme} {registered : List Theme} (h : Lists themes registered)
    {name : Text} : name ∈ Table.keys themes ↔ ∃ t ∈ registered, t.name = name := by
  rw [h.keys, List.mem_eraseDups, List.mem_map]

/-! ## Files -/

theorem loadFiles_eq (s : ThemeStore) (count : Nat) (files : List (Text × Text)) :
    (s.loadFiles count files).1 = (readable files).foldl add s := by
  induction files generalizing s count with
  | nil => rfl
  | cons file files ih =>
      obtain ⟨path, text⟩ := file
      rw [loadFiles, readable]
      cases hfile : Theme.ofFile text with
      | ok t => exact ih (s.add t) (count + 1)
      | error f => rfl

/-- A load fails with the first file that cannot be read; those before it can be read. -/
theorem exists_of_loadFiles_eq_error
    {s : ThemeStore} {count : Nat} {files : List (Text × Text)} {f : Fault}
    (h : (s.loadFiles count files).2 = .error f) :
    ∃ before file after, files = before ++ file :: after ∧
      before.map (fun e => Theme.ofFile e.2) = (readable files).map .ok ∧
      Theme.ofFile file.2 = .error f := by
  induction files generalizing s count with
  | nil => cases h
  | cons file files ih =>
      obtain ⟨path, text⟩ := file
      rw [loadFiles] at h
      rw [readable]
      cases hfile : Theme.ofFile text with
      | ok t =>
          rw [hfile] at h
          obtain ⟨before, file, after, heq, hbefore, hfailing⟩ := ih h
          refine ⟨(path, text) :: before, file, after, ?_, ?_, hfailing⟩
          · rw [heq, List.cons_append]
          · rw [List.map_cons, hfile, hbefore, List.map_cons]
      | error g =>
          rw [hfile] at h
          obtain rfl := Except.error.inj h
          exact ⟨[], (path, text), files, rfl, rfl, hfile⟩

/-- Whether a file of a directory is one of a theme. -/
def isThemeFile (file : Text × Text) : Bool := (".json" : Text).isSuffixOf file.1

theorem themeFiles_perm (directory : Table Text) :
    (themeFiles directory).Perm (directory.filter isThemeFile) :=
  List.mergeSort_perm _ _

theorem themeFiles_pairwise (directory : Table Text) :
    (themeFiles directory).Pairwise fun a b => Text.le a.1 b.1 = true :=
  List.pairwise_mergeSort (fun a b c => @Text.le_trans a.1 b.1 c.1)
    (fun a b => Text.le_or_le a.1 b.1) _

/-! ## What one call changes -/

variable (s : ThemeStore)

theorem mem_names_iff {name : Text} : name ∈ s.names ↔ ∃ t, s.get name = .ok t := by
  rw [get, names]
  cases hname : Table.get? name s.themes with
  | some t =>
      have hmem : name ∈ Table.keys s.themes :=
        List.mem_map_of_mem (Table.mem_of_get?_eq_some hname)
      exact iff_of_true hmem ⟨t, rfl⟩
  | none =>
      refine iff_of_false (Table.get?_eq_none_iff.mp hname) ?_
      rintro ⟨t, ht⟩
      cases ht

theorem get_of_not_mem {name : Text} (h : name ∉ s.names) :
    s.get name = .error (.unknownTheme name s.names) := by
  rw [get, Table.get?_eq_none_iff.mpr h]

/-- A call makes a theme the active one exactly where it is known. -/
theorem call_setActive (name : Text) :
    s.call (.setActive name) =
      if name ∈ s.names then ({ s with activeName := name }, none)
      else (s, some (.unknownTheme name s.names)) := by
  rw [call, setActive]
  split
  · rename_i hname
    obtain ⟨t, ht⟩ := s.mem_names_iff.mp hname
    rw [ht]
    rfl
  · rename_i hname
    rw [s.get_of_not_mem hname]
    rfl

/-- A call gives a section a theme exactly where it is known. -/
theorem call_mapSection (section_ : Key) (name : Text) :
    s.call (.mapSection section_ name) =
      if name ∈ s.names then ({ s with sections := KeyTable.set section_ name s.sections }, none)
      else (s, some (.unknownTheme name s.names)) := by
  rw [call, mapSection]
  split
  · rename_i hname
    obtain ⟨t, ht⟩ := s.mem_names_iff.mp hname
    rw [ht]
    rfl
  · rename_i hname
    rw [s.get_of_not_mem hname]
    rfl

theorem call_loadDirectory_fst (directory : Option (Table Text)) :
    (s.call (.loadDirectory directory)).1 = (Call.loadDirectory directory).themes.foldl add s := by
  cases directory with
  | none => rfl
  | some directory =>
      rw [call, Call.themes, ← s.loadFiles_eq 0, loadDirectory]
      cases hload : s.loadFiles 0 (themeFiles directory) with
      | mk s' result => cases result <;> rfl

/-- A call registers its themes, whether it fails or not. -/
theorem themes_call (c : Call) :
    (s.call c).1.themes = c.themes.foldl (fun acc t => Table.set t.name t acc) s.themes := by
  cases c with
  | add t => rfl
  | setActive name =>
      rw [call_setActive]
      split <;> rfl
  | mapSection section_ name =>
      rw [call_mapSection]
      split <;> rfl
  | loadDirectory directory => rw [call_loadDirectory_fst, foldl_add]

/-- What a call that fails leaves of a store. -/
inductive FailedCall (s : ThemeStore) : Call → Fault → ThemeStore → Prop where
  /-- A theme that is not known does not become the active one. -/
  | setActive {name : Text} (hname : name ∉ s.names) :
      FailedCall s (.setActive name) (.unknownTheme name s.names) s
  /-- A section is not given a theme that is not known. -/
  | mapSection {section_ : Key} {name : Text} (hname : name ∉ s.names) :
      FailedCall s (.mapSection section_ name) (.unknownTheme name s.names) s
  /-- Of the theme files of a directory, in the order of their names, those before one that cannot be
  read are registered. -/
  | loadDirectory
      {directory : Table Text} {before after : List (Text × Text)} {file : Text × Text}
      {themes : List Theme} {f : Fault}
      (hfiles : (before ++ file :: after).Perm (directory.filter isThemeFile))
      (horder : (before ++ file :: after).Pairwise fun a b => Text.le a.1 b.1 = true)
      (hbefore : before.map (fun e => Theme.ofFile e.2) = themes.map .ok)
      (hfile : Theme.ofFile file.2 = .error f) :
      FailedCall s (.loadDirectory (some directory)) f (themes.foldl add s)

theorem failedCall_of_eq_some {c : Call} {f : Fault} (h : (s.call c).2 = some f) :
    FailedCall s c f (s.call c).1 := by
  cases c with
  | add t => cases h
  | setActive name =>
      rw [call_setActive] at h ⊢
      split at h
      · cases h
      · rename_i hname
        obtain rfl := Option.some.inj h
        rw [if_neg hname]
        exact .setActive hname
  | mapSection section_ name =>
      rw [call_mapSection] at h ⊢
      split at h
      · cases h
      · rename_i hname
        obtain rfl := Option.some.inj h
        rw [if_neg hname]
        exact .mapSection hname
  | loadDirectory directory =>
      rw [call_loadDirectory_fst]
      cases directory with
      | none => cases h
      | some directory =>
          have hload : (s.loadFiles 0 (themeFiles directory)).2 = .error f := by
            rw [call, loadDirectory] at h
            cases hload : s.loadFiles 0 (themeFiles directory) with
            | mk s' result =>
                rw [hload] at h
                cases result with
                | ok count => cases h
                | error g => rw [Option.some.inj h]
          obtain ⟨before, file, after, heq, hbefore, hfile⟩ := exists_of_loadFiles_eq_error hload
          exact .loadDirectory (heq ▸ themeFiles_perm directory) (heq ▸ themeFiles_pairwise directory)
            hbefore hfile

/-- A call that fails leaves the names that a store refers to. -/
theorem FailedCall.refers {s s' : ThemeStore} {c : Call} {f : Fault} (h : FailedCall s c f s') :
    s'.activeName = s.activeName ∧ s'.sections = s.sections := by
  cases h with
  | setActive hname => exact ⟨rfl, rfl⟩
  | mapSection hname => exact ⟨rfl, rfl⟩
  | loadDirectory hfiles horder hbefore hfile =>
      rw [foldl_add]
      exact ⟨rfl, rfl⟩

/-- A call that does not fail refers to a theme that is known, if to any. -/
structure DoneCall (s : ThemeStore) (c : Call) (s' : ThemeStore) : Prop where
  activeName : s'.activeName = c.active?.getD s.activeName
  active : ∀ name, c.active? = some name → name ∈ s.names
  sections : ∀ section_, KeyTable.get? section_ s'.sections =
    (c.mapped? section_).or (KeyTable.get? section_ s.sections)
  mapped : ∀ section_ name, c.mapped? section_ = some name → name ∈ s.names

theorem doneCall_of_eq_none {c : Call} (h : (s.call c).2 = none) : DoneCall s c (s.call c).1 := by
  cases c with
  | add t => exact ⟨rfl, nofun, fun _ => rfl, nofun⟩
  | setActive name =>
      rw [call_setActive] at h ⊢
      split at h
      · rename_i hname
        rw [if_pos hname]
        refine ⟨rfl, ?_, fun _ => rfl, nofun⟩
        intro other hother
        exact Option.some.inj hother ▸ hname
      · cases h
  | mapSection section_ name =>
      rw [call_mapSection] at h ⊢
      split at h
      · rename_i hname
        rw [if_pos hname]
        refine ⟨rfl, nofun, ?_, ?_⟩
        · intro other
          rw [KeyTable.get?_set, Call.mapped?]
          split <;> rfl
        · intro other name' hother
          rw [Call.mapped?] at hother
          split at hother
          · exact Option.some.inj hother ▸ hname
          · cases hother
      · cases h
  | loadDirectory directory =>
      rw [call_loadDirectory_fst, foldl_add]
      exact ⟨rfl, nofun, fun _ => rfl, nofun⟩

/-! ## What a store refers to -/

/-- A store refers to known themes only, by the names that it was given last. -/
structure Tracks (s : ThemeStore) (first : Text) (registered : List Theme) (done : List Call) :
    Prop where
  lists : Lists s.themes registered
  activeName : s.activeName = (lastActive? done).getD first
  activeKnown : s.activeName ∈ s.names
  sections : ∀ section_, KeyTable.get? section_ s.sections = lastMapped? done section_
  sectionsKnown : ∀ section_ name, lastMapped? done section_ = some name → name ∈ s.names

theorem lastActive?_concat (done : List Call) (c : Call) :
    lastActive? (done ++ [c]) = c.active?.or (lastActive? done) := by
  rw [lastActive?, List.reverse_concat, List.findSome?_cons]
  cases c.active? <;> rfl

theorem lastMapped?_concat (done : List Call) (c : Call) (section_ : Key) :
    lastMapped? (done ++ [c]) section_ = (c.mapped? section_).or (lastMapped? done section_) := by
  rw [lastMapped?, List.reverse_concat, List.findSome?_cons]
  cases c.mapped? section_ <;> rfl

variable {s} {first : Text} {registered : List Theme} {done : List Call}

/-- Calls take no theme out. -/
theorem Lists.names_subset (h : Lists s.themes registered) (c : Call) :
    ∀ name ∈ s.names, name ∈ (s.call c).1.names := by
  intro name hname
  have hcall := h.foldl c.themes
  rw [← s.themes_call c] at hcall
  obtain ⟨t, ht, heq⟩ := h.mem_keys.mp hname
  exact hcall.mem_keys.mpr ⟨t, List.mem_append_left _ ht, heq⟩

theorem Tracks.next (h : Tracks s first registered done) (c : Call) :
    Tracks (s.call c).1 first (registered ++ c.themes)
      (if (s.call c).2.isNone then done ++ [c] else done) := by
  have hsubset := h.lists.names_subset c
  have hlists : Lists (s.call c).1.themes (registered ++ c.themes) := by
    rw [themes_call]
    exact h.lists.foldl c.themes
  cases hfault : (s.call c).2 with
  | none =>
      have hdone := s.doneCall_of_eq_none hfault
      rw [Option.isNone_none, if_pos rfl]
      refine ⟨hlists, ?_, ?_, ?_, ?_⟩
      · rw [hdone.activeName, h.activeName, lastActive?_concat]
        cases c.active? <;> rfl
      · apply hsubset
        rw [hdone.activeName]
        cases hactive : c.active? with
        | none => exact h.activeKnown
        | some name => exact hdone.active name hactive
      · intro section_
        rw [hdone.sections, h.sections, lastMapped?_concat]
      · intro section_ name hname
        apply hsubset
        rw [lastMapped?_concat] at hname
        rcases Option.or_eq_some_iff.mp hname with hmapped | ⟨-, hold⟩
        · exact hdone.mapped section_ name hmapped
        · exact h.sectionsKnown section_ name hold
  | some f =>
      obtain ⟨hactive, hsections⟩ := (s.failedCall_of_eq_some hfault).refers
      rw [Option.isNone_some, if_neg Bool.false_ne_true]
      refine ⟨hlists, hactive.trans h.activeName, ?_, ?_, ?_⟩
      · rw [hactive]
        exact hsubset _ h.activeKnown
      · rw [hsections]
        exact h.sections
      · intro section_ name hname
        exact hsubset _ (h.sectionsKnown section_ name hname)

theorem session_concat (s : ThemeStore) (calls : List Call) (c : Call) :
    session s (calls ++ [c]) = (session s calls).next c := by
  rw [session, List.foldl_append, List.foldl_cons, List.foldl_nil, session]

theorem Tracks.session (h : Tracks s first registered []) (calls : List Call) :
    Tracks (session s calls).store first (registered ++ calls.flatMap Call.themes)
      (session s calls).done := by
  induction calls using List.reverseRecOn with
  | nil =>
      rw [List.flatMap_nil, List.append_nil]
      exact h
  | append_singleton calls c ih =>
      rw [session_concat, List.flatMap_append, ← List.append_assoc, List.flatMap_singleton]
      exact ih.next c

/-- A store of themes is made with the theme of some name active where there is one. -/
theorem exists_create_eq {themes : List Theme} (h : themes ≠ []) (active : Option Text) :
    ∃ name, create themes active =
      let registered := themes.foldl (fun acc t => Table.set t.name t acc) []
      if Table.has name registered then .ok ⟨registered, name, []⟩
      else .error (.unknownTheme name (Table.keys registered)) := by
  have hnonempty : themes.isEmpty = false := List.isEmpty_eq_false_iff.mpr h
  simp only [create, hnonempty, Bool.false_eq_true, if_false]
  exact ⟨_, rfl⟩

/-- A new store has its themes, and one of them is active. -/
theorem tracks_of_create
    {themes : List Theme} (h : themes ≠ []) {active : Option Text} {s : ThemeStore}
    (hs : create themes active = .ok s) : Tracks s s.activeName themes [] := by
  obtain ⟨name, hcreate⟩ := exists_create_eq h active
  rw [hcreate] at hs
  dsimp only at hs
  split at hs
  · rename_i hhas
    obtain rfl := Except.ok.inj hs
    have hlists := Lists.nil.foldl themes
    rw [List.nil_append] at hlists
    obtain ⟨t, ht⟩ := Option.isSome_iff_exists.mp hhas
    exact ⟨hlists, rfl, List.mem_map_of_mem (Table.mem_of_get?_eq_some ht), fun _ => rfl, nofun⟩
  · cases hs

/-- The name that the first of some sections was given that was given one with something in it. -/
def firstMapped? (done : List Call) (sections : List Key) : Option Text :=
  sections.findSome? fun section_ => (lastMapped? done section_).filter fun name => !name.isEmpty

theorem get_getD {name : Text} (h : name ∈ s.names) :
    s.get name = .ok ((Table.get? name s.themes).getD default) := by
  obtain ⟨t, ht⟩ := s.mem_names_iff.mp h
  rw [get] at ht ⊢
  cases hname : Table.get? name s.themes with
  | some t => rfl
  | none =>
      rw [hname] at ht
      cases ht

theorem Tracks.get_used (h : Tracks s first registered done) (sections : List Key) :
    s.get ((firstMapped? done sections).getD s.activeName) = .ok (s.used sections) := by
  induction sections with
  | nil => exact get_getD h.activeKnown
  | cons section_ sections ih =>
      rw [used, h.sections, firstMapped?, List.findSome?_cons]
      cases hmapped : lastMapped? done section_ with
      | none => exact ih
      | some name =>
          by_cases hempty : name.isEmpty = true
          · have hskipped : (some name).filter (fun name => !name.isEmpty) = none := by
              rw [Option.filter_some, hempty]
              rfl
            rw [hskipped]
            simp only [if_pos hempty]
            exact ih
          · have hkept : (some name).filter (fun name => !name.isEmpty) = some name := by
              rw [Option.filter_some, Bool.eq_false_iff.mpr hempty]
              rfl
            rw [hkept]
            simp only [if_neg hempty]
            exact get_getD (h.sectionsKnown section_ name hmapped)

/-- What a store shows of the themes that were registered and of the calls that did not fail. -/
structure Shows (s : ThemeStore) (first : Text) (registered : List Theme) (done : List Call) :
    Prop where
  /-- Names are in the order of their first registration. -/
  names : s.names = (registered.map Theme.name).eraseDups
  distinct : s.names.Nodup
  /-- Of the themes of a name the last one counts. -/
  get : ∀ name, s.get name =
    match lastRegistered? registered name with
    | some t => .ok t
    | none => .error (.unknownTheme name s.names)
  activeName : s.activeName = (lastActive? done).getD first
  /-- There is an active theme. -/
  active : s.get s.activeName = .ok s.active
  sections : ∀ section_, KeyTable.get? section_ s.sections = lastMapped? done section_
  /-- Sections have themes that are there. -/
  mapped : ∀ section_ name, KeyTable.get? section_ s.sections = some name →
    ∃ t, s.get name = .ok t
  /-- The theme for an export is there: that of the first section that has one, else the active
  one. -/
  used : ∀ sections,
    s.get ((firstMapped? done sections).getD s.activeName) = .ok (s.used sections)

theorem Tracks.shows (h : Tracks s first registered done) : Shows s first registered done where
  names := h.lists.keys
  distinct := by
    rw [names, h.lists.keys]
    exact Table.nodup_eraseDups _
  get name := by
    have hget := h.lists.get? name
    cases hlast : lastRegistered? registered name with
    | some t => rw [ThemeStore.get, hget, hlast]
    | none => rw [ThemeStore.get, hget, hlast]
  activeName := h.activeName
  active := get_getD h.activeKnown
  sections := h.sections
  mapped section_ name hname := by
    rw [h.sections] at hname
    exact s.mem_names_iff.mp (h.sectionsKnown section_ name hname)
  used := h.get_used

/-- Whatever calls are made on a store, and whether they fail or not, every name that it refers to is
that of a theme, so there is always an active theme and one for an export.  A call that fails changes
nothing, but for the themes that a directory gave before it failed. -/
theorem session_shows_calls
    {themes : List Theme} (h : themes ≠ []) {active : Option Text} {s : ThemeStore}
    (hs : create themes active = .ok s) (calls : List Call) :
    Shows (session s calls).store s.activeName (themes ++ calls.flatMap Call.themes)
        (session s calls).done ∧
      ∀ c f, ((session s calls).store.call c).2 = some f →
        FailedCall (session s calls).store c f ((session s calls).store.call c).1 :=
  ⟨((tracks_of_create h hs).session calls).shows, fun _ _ => failedCall_of_eq_some _⟩

/-- A mapped theme is replaced, an unknown one is asked for, and of a directory the second file
fails. -/
theorem session_shows_calls_of_day_and_night :
    let day : Theme := ⟨"Day", []⟩
    let night : Theme := ⟨"Night", []⟩
    let noon : Theme := ⟨"Day", [("body_size", .int 20)]⟩
    let directory : Table Text :=
      [("a.json", "\x7b\"name\": \"Dawn\"\x7d"), ("b.json", "["), ("c.txt", "")]
    let calls : List Call := [.setActive "Night", .mapSection "sports" "Day", .add noon,
      .setActive "Dusk", .loadDirectory (some directory)]
    let s : ThemeStore := ⟨[("Day", day), ("Night", night)], "Day", []⟩
    let names : List Text := ["Day", "Night", "Dawn"]
    create [day, night] none = .ok s ∧
      Shows (session s calls).store "Day" ([day, night] ++ calls.flatMap Call.themes)
        (session s calls).done ∧
      FailedCall (session s calls).store (.setActive "Dusk") (.unknownTheme "Dusk" names)
        ((session s calls).store.call (.setActive "Dusk")).1 ∧
      (session s calls).store.names = names ∧
      (session s calls).store.used ["news", "sports"] = noon ∧
      (session s calls).store.used ["news"] = night := by
  intro day night noon directory calls s names
  let dawn : Theme := ⟨"Dawn", []⟩
  have hfiles : themeFiles directory = directory.take 2 :=
    List.mergeSort_of_pairwise (by decide +kernel)
  have hload (s : ThemeStore) : (s.call (.loadDirectory (some directory))).1 = s.add dawn := by
    have hreadable : readable (directory.take 2) = [dawn] := by decide +kernel
    rw [call_loadDirectory_fst, Call.themes, hfiles, hreadable]
    rfl
  have hstore : (session s calls).store =
      ⟨[("Day", noon), ("Night", night), ("Dawn", dawn)], "Night", [("sports", "Day")]⟩ :=
    hload _
  have hs : create [day, night] none = .ok s := rfl
  obtain ⟨hshows, hfailed⟩ := session_shows_calls (List.cons_ne_nil day [night]) hs calls
  have hnames : (session s calls).store.names = names := by
    rw [hstore]
    rfl
  have hunknown : ("Dusk" : Text) ∉ (session s calls).store.names := by
    rw [hnames]
    decide
  refine ⟨hs, hshows, hfailed _ _ ?_, hnames, ?_, ?_⟩
  · rw [call_setActive, if_neg hunknown, hnames]
  · rw [hstore]
    rfl
  · rw [hstore]
    rfl

end ArticleExport.ThemeStore
