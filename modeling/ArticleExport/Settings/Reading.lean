import ArticleExport.Json.Reader
import ArticleExport.Json.Shown
import ArticleExport.Settings.Basic
import ArticleExport.Settings.Conversion
import ArticleExport.Text.Case

/-!
# Reading settings

Settings come as arguments or from the environment, under names in any case.  An argument counts before
the environment, and what neither gives has its default value.  All problems are reported together.  Later
on settings may be changed one by one, and then their values are not looked at.
-/

namespace ArticleExport.Settings

/-- Settings read so far, and the problems found. -/
structure Reading where
  /-- The settings. -/
  settings : Settings
  /-- The problems. -/
  issues : List FieldIssue

namespace Reading

/-- Reads a field and puts it in its place. -/
def put {α : Type} (name : Text) (read : Json → Except Problem α) (place : Settings → α → Settings)
    (given : Table Json) (r : Reading) : Reading :=
  match Table.get? name given with
  | none => r
  | some v =>
    match read v with
    | .ok x => { r with settings := place r.settings x }
    | .error problem => { r with issues := r.issues ++ [⟨[name], problem⟩] }

end Reading

/-- The name of the terms that are not pushed. -/
def skipName : Text := "api_autosync_skip"

/-- A list of terms, which may be written as JSON; whatever is no list stands for no terms. -/
def termList : Json → List Json
  | .arr items => items
  | .str t => match Json.parse? t with
    | some (.arr items) => items
    | _ => []
  | _ => []

/-- Reads the terms one by one. -/
def readTerms (position : Nat) : List Json → List Int × List FieldIssue
  | [] => ([], [])
  | v :: vs =>
    let (terms, issues) := readTerms (position + 1) vs
    match Conversion.int v with
    | .ok n => (n :: terms, issues)
    | .error problem => (terms, ⟨[skipName, Text.ofNat position], problem⟩ :: issues)

/-- Reads the terms that are not pushed. -/
def putTerms (given : Table Json) (r : Reading) : Reading :=
  match Table.get? skipName given with
  | none => r
  | some v =>
    match readTerms 0 (termList v) with
    | (terms, []) =>
      { r with settings := { r.settings with apiAutosyncSkip := terms.map Key.int } }
    | (_, issues) => { r with issues := r.issues ++ issues }

/-- Reads an alert policy. -/
def readPolicy : Json → Except Problem AlertPolicy
  | .str t => match AlertPolicy.ofName? t with
    | some p => .ok p
    | none => .error .notAChoice
  | _ => .error .notAChoice

/-- Reads the settings that are given by their names. -/
def fill (given : Table Json) (s : Settings) : Reading :=
  (⟨s, []⟩ : Reading)
    |> Reading.put "api_base_url" Conversion.text (fun s v => { s with apiBaseUrl := v }) given
    |> Reading.put "api_key" Conversion.text (fun s v => { s with apiKey := v }) given
    |> Reading.put "api_secret" Conversion.text (fun s v => { s with apiSecret := v }) given
    |> Reading.put "api_channel" Conversion.text (fun s v => { s with apiChannel := v }) given
    |> Reading.put "api_timeout" Conversion.int (fun s v => { s with apiTimeout := v }) given
    |> Reading.put "api_async" Conversion.bool (fun s v => { s with apiAsync := v }) given
    |> Reading.put "api_autosync" Conversion.bool (fun s v => { s with apiAutosync := v }) given
    |> putTerms given
    |> Reading.put "component_alerts" readPolicy (fun s v => { s with componentAlerts := v }) given
    |> Reading.put "html_support" Conversion.bool (fun s v => { s with htmlSupport := v }) given
    |> Reading.put "aside_component_class" Conversion.text (fun s v => { s with asideClass := v }) given
    |> Reading.put "in_article_position" Conversion.int
        (fun s v => { s with inArticlePosition := v }) given
    |> Reading.put "use_remote_images" Conversion.bool
        (fun s v => { s with useRemoteImages := v }) given
    |> Reading.put "full_bleed_images" Conversion.bool
        (fun s v => { s with fullBleedImages := v }) given
    |> Reading.put "section_url_base" Conversion.text
        (fun s v => { s with sectionUrlBase := v }) given
    |> Reading.put "active_theme" Conversion.text (fun s v => { s with activeTheme := v }) given

/-- The given values under lower-case names; of names that differ only in case the first counts. -/
def lowerNames (given : Table Json) : Table Json :=
  Table.ofEntries (given.reverse.map fun e => (e.1.lower, e.2))

/-- The values of the environment, of which the list of terms is JSON. -/
def ofEnvironment (environment : Table Text) : Except Fault (Table Json) :=
  let named : Table Text := Table.ofEntries (environment.map fun e => (e.1.lower, e.2))
  named.mapM fun (name, t) =>
    if name = skipName then
      match Json.parse? t with
      | some v => .ok (name, v)
      | none => .error .unreadableSetting
    else .ok (name, .str t)

/-- The settings of arguments and an environment. -/
def read (arguments : Table Json) (environment : Table Text) : Except Fault Settings := do
  let surroundings ← ofEnvironment environment
  let r := fill (Table.update surroundings (lowerNames arguments)) default
  match r.issues with
  | [] => return r.settings
  | issues => throw (.invalidFields issues)

/-- A text that is taken as it is; what has no content is empty. -/
def plainText : Json → Text
  | .str t => t
  | v => if v.isTruthy then v.shown else []

/-- Terms that are taken as they are. -/
def plainTerms : Json → List Key
  | .arr items => items.filterMap Json.key?
  | .str t => t.map fun c => .text [c]
  | .obj entries => entries.map fun e => .text e.1
  | .keyed entries => entries.map (·.1)
  | _ => []

/-- A number that is taken as it is, where it is whole. -/
def plainInt (v : Json) (otherwise : Int) : Int :=
  match v with
  | .int n => n
  | .bool b => if b then 1 else 0
  | .float x => (integral? x).getD otherwise
  | _ => otherwise

/-- The settings with one of them changed.  Unlike `read` this does not look at the value: a condition
holds as the value has content, and an unknown policy is that of leaving out. -/
def set? (name : Text) (v : Json) (s : Settings) : Option Settings :=
  (setters.find? fun e => e.1 == name).map fun e => e.2 v s
where
  /-- The change of each setting. -/
  setters : List (Text × (Json → Settings → Settings)) :=
    [("api_base_url", fun v s => { s with apiBaseUrl := plainText v }),
      ("api_key", fun v s => { s with apiKey := plainText v }),
      ("api_secret", fun v s => { s with apiSecret := plainText v }),
      ("api_channel", fun v s => { s with apiChannel := plainText v }),
      ("api_timeout", fun v s => { s with apiTimeout := plainInt v s.apiTimeout }),
      ("api_async", fun v s => { s with apiAsync := v.isTruthy }),
      ("api_autosync", fun v s => { s with apiAutosync := v.isTruthy }),
      (skipName, fun v s => { s with apiAutosyncSkip := plainTerms v }),
      ("component_alerts", fun v s =>
        { s with componentAlerts := (AlertPolicy.ofName? (plainText v)).getD .ignore }),
      ("html_support", fun v s => { s with htmlSupport := v.isTruthy }),
      ("aside_component_class", fun v s => { s with asideClass := plainText v }),
      ("in_article_position", fun v s =>
        { s with inArticlePosition := plainInt v s.inArticlePosition }),
      ("use_remote_images", fun v s => { s with useRemoteImages := v.isTruthy }),
      ("full_bleed_images", fun v s => { s with fullBleedImages := v.isTruthy }),
      ("section_url_base", fun v s => { s with sectionUrlBase := plainText v }),
      ("active_theme", fun v s => { s with activeTheme := plainText v })]

/-- The names of the directories, which an export does not look at. -/
def directoryNames : List Text := ["themes_dir", "temp_dir"]

/-- Changes settings one by one, up to one with a name that no setting has.  A name with an underscore in
front is nobody's, and not looked at. -/
def assign : Table Json → Settings → Settings × Option Fault
  | [], s => (s, none)
  | (name, v) :: given, s =>
    match set? name v s with
    | some s => assign given s
    | none =>
      if directoryNames.contains name || name.head? == some (.scalar '_') then assign given s
      else (s, some (.unknownSetting name))

end ArticleExport.Settings
