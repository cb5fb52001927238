import ArticleExport.Failure
import ArticleExport.Json.Reader
import ArticleExport.Theme.Defaults

/-!
# Themes

A theme is a name with values by key.  Where it leaves a key out, or sets it to null, the default
value counts.  A theme may also bring its own templates, by component and spec name.
-/

namespace ArticleExport

/-- A named set of values. -/
structure Theme where
  /-- The name of the theme. -/
  name : Text
  /-- The values that the theme sets. -/
  own : Table Json
deriving DecidableEq

namespace Theme

/-- The name of the theme that sets nothing. -/
def defaultName : Text := "Default"

/-- The theme that sets nothing. -/
def default : Theme := ⟨defaultName, []⟩

instance : Inhabited Theme := ⟨default⟩

/-- The value of a key: the theme's own one unless it is null, else the default one. -/
def find? (t : Theme) (key : Text) : Option Json :=
  match Table.get? key t.own with
  | some v => if v.isNull then Table.get? key defaults else some v
  | none => Table.get? key defaults

/-- The value of a key, null where there is none. -/
def value (t : Theme) (key : Text) : Json := (t.find? key).getD .null

/-- Whether a key has a value with something in it. -/
def hasValue (t : Theme) (key : Text) : Bool := !(t.value key).isEmpty

/-- The template that the theme has for a spec, where it has one. -/
def template? (t : Theme) (component spec : Text) : Except Fault (Option Json) :=
  let templates := t.value templatesKey
  if !templates.isTruthy then .ok none
  else match templates with
    | .obj byComponent =>
      match (Table.get? component byComponent).getD (.obj []) with
      | .obj bySpec =>
        .ok ((Table.get? spec bySpec).filter fun template => !template.isNull)
      | v => .error (.withoutEntries v.kindName)
    | v => .error (.withoutEntries v.kindName)

/-- The default values with the theme's own ones set over them. -/
def allValues (t : Theme) : Table Json := Table.update defaults t.own

/-- The theme as a JSON object. -/
def toJson (t : Theme) : Json := .obj [("name", .str t.name), ("values", .obj t.own)]

/-- The theme in one line, for messages. -/
def describe (t : Theme) : Text :=
  ("Theme(name=" : Text) ++ t.name.quoted ++ (", values=" : Text) ++ Text.ofNat t.own.length ++
    (")" : Text)

/-- What is wrong with the name of a theme file. -/
def nameIssues : Option Json → List FieldIssue
  | none => [⟨["name"], .missing⟩]
  | some (.str t) => if t.IsScalar then [] else [⟨["name"], .notEncodable⟩]
  | some _ => [⟨["name"], .notText⟩]

/-- What is wrong with the values of a theme file. -/
def valuesIssues : Option Json → List FieldIssue
  | none => []
  | some (.obj entries) =>
    (Table.keys entries).filterMap fun key =>
      if key.IsScalar then none else some ⟨["values", key, "[key]"], .notEncodable⟩
  | some _ => [⟨["values"], .notObject⟩]

/-- The theme of a JSON object with a name and, where there are any, values. -/
def ofJson : Json → Except Fault Theme
  | .obj fields =>
    let name := Table.get? "name" fields
    let values := Table.get? "values" fields
    match nameIssues name ++ valuesIssues values with
    | [] =>
      match name, values with
      | some (.str t), some (.obj entries) => .ok ⟨t, entries⟩
      | some (.str t), _ => .ok ⟨t, []⟩
      | _, _ => .ok default
    | issues => .error (.invalidFields issues)
  | _ => .error .notARecord

/-- The theme of the text of a theme file. -/
def ofFile (text : Text) : Except Fault Theme := do
  ofJson (← Json.read text)

end Theme

end ArticleExport
