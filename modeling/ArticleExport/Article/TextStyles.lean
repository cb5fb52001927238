import ArticleExport.Article.Ledger
import ArticleExport.Article.Mapping
import ArticleExport.Spec.Substitution

/-!
# Text styles of markup

An article with markup in it declares how certain tags look.  The styles come from a spec, which resolves
to an object of styles.
-/

namespace ArticleExport

/-- The table with the styles of a list of entries, and how many of them are new.  An entry that is no
style ends the work; the styles before it stay. -/
def registerStyles (styles : Table Json) : List (Text × Json) → Table Json × Except Fault Nat
  | [] => (styles, .ok 0)
  | (name, style) :: rest =>
    match style.toMapping with
    | .error f => (styles, .error f)
    | .ok style =>
      let new := if Table.has name styles then 0 else 1
      let (styles, count) := registerStyles (Table.setIfAbsent name style styles) rest
      (styles, count.map (new + ·))

/-- The table with the styles that a spec declares under a theme, and how many of them are new. -/
def addTagStyles (styles : Table Json) (spec : Option Spec) (theme : Theme) :
    Table Json × Except Fault Nat :=
  match spec with
  | none => (styles, .ok 0)
  | some s =>
    match s.substitute [] theme with
    | .error f => (styles, .error f)
    | .ok (.obj entries) => registerStyles styles entries
    | .ok _ => (styles, .ok 0)

end ArticleExport
