import ArticleExport.Theme.Basic

/-!
# Theme stores

The known themes by name, the active one, and the themes of sections.  An operation that names a
theme refuses a name that is not known and changes nothing then.
-/

namespace ArticleExport

/-- The known themes, the active one and the themes of sections. -/
structure ThemeStore where
  /-- The themes by name, in the order of their first registration. -/
  themes : Table Theme
  /-- The name of the active theme. -/
  activeName : Text
  /-- The name of the theme of each section that has one. -/
  sections : KeyTable Text

namespace ThemeStore

/-- The names of the known themes. -/
def names (s : ThemeStore) : List Text := Table.keys s.themes

/-- The theme of a name. -/
def get (s : ThemeStore) (name : Text) : Except Fault Theme :=
  match Table.get? name s.themes with
  | some t => .ok t
  | none => .error (.unknownTheme name s.names)

/-- The active theme.  A store always has it among its themes. -/
def active (s : ThemeStore) : Theme := (Table.get? s.activeName s.themes).getD default

/-- Registers a theme; one of the same name is replaced in its place. -/
def add (s : ThemeStore) (t : Theme) : ThemeStore :=
  { s with themes := Table.set t.name t s.themes }

/-- A store of themes, the default theme where there are none.  The first theme is active unless
another one is named. -/
def create (themes : List Theme) (active : Option Text) : Except Fault ThemeStore :=
  let themes := if themes.isEmpty then [default] else themes
  let registered := themes.foldl (fun acc t => Table.set t.name t acc) []
  let first := ((Table.keys registered).head?).getD []
  let name := match active with
    | some name => if name.isEmpty then first else name
    | none => first
  if Table.has name registered then .ok ⟨registered, name, []⟩
  else .error (.unknownTheme name (Table.keys registered))

/-- The store with the default theme alone. -/
def initial : ThemeStore := ⟨[(Theme.defaultName, default)], Theme.defaultName, []⟩

/-- Makes a theme the active one. -/
def setActive (s : ThemeStore) (name : Text) : Except Fault ThemeStore := do
  let _ ← s.get name
  return { s with activeName := name }

/-- Gives a section a theme. -/
def mapSection (s : ThemeStore) (section_ : Key) (name : Text) : Except Fault ThemeStore := do
  let _ ← s.get name
  return { s with sections := KeyTable.set section_ name s.sections }

/-- The theme for an export: that of the first section that has one, else the active one. -/
def used (s : ThemeStore) : List Key → Theme
  | [] => s.active
  | section_ :: rest =>
    match KeyTable.get? section_ s.sections with
    | some name => if name.isEmpty then used s rest else (Table.get? name s.themes).getD default
    | none => used s rest

/-- The names of the theme files among the files of a directory, in order. -/
def themeFiles (directory : Table Text) : List (Text × Text) :=
  (directory.filter fun f => (".json" : Text).isSuffixOf f.1).mergeSort fun a b => Text.le a.1 b.1

/-- Registers the themes of files up to the first that cannot be read.  Gives the store so far, and
the number of themes where all could be read. -/
def loadFiles (s : ThemeStore) (count : Nat) : List (Text × Text) → ThemeStore × Except Fault Nat
  | [] => (s, .ok count)
  | (_, text) :: files =>
    match Theme.ofFile text with
    | .ok t => loadFiles (s.add t) (count + 1) files
    | .error f => (s, .error f)

/-- Registers every theme of a directory; a directory that does not exist has none. -/
def loadDirectory (s : ThemeStore) : Option (Table Text) → ThemeStore × Except Fault Nat
  | none => (s, .ok 0)
  | some directory => s.loadFiles 0 (themeFiles directory)

/-- The store with the default theme and those of a directory.  The wanted theme is active where it
is known. -/
def ofDirectory (directory : Option (Table Text)) (wanted : Text) : Except Fault ThemeStore :=
  match initial.loadDirectory directory with
  | (s, .ok _) => .ok (if Table.has wanted s.themes then { s with activeName := wanted } else s)
  | (_, .error f) => .error f

end ThemeStore

end ArticleExport
