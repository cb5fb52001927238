import ArticleExport.Article.Assembly
import ArticleExport.Failure.Report

/-!
# Reports of exports

What an export has made, as JSON: the article, the bundles and the content that no component could show, with
the names in the order in which they stand.
-/

namespace ArticleExport

/-- The names, or other keys, in an object under a name. -/
def Json.namesUnder (name : Text) (entries : Table Json) : Json :=
  .arr (((((Table.get? name entries).getD .null).keyedEntries?).getD []).map fun e => ofKey e.1)

/-- The names of the issues of a run. -/
def ComponentIssue.names (issues : List ComponentIssue) : Json :=
  .texts (issues.map ComponentIssue.component)

/-- What a ledger holds. -/
def Ledger.report (l : Ledger) : List (String × Json) :=
  [("textStyles", .obj l.textStyles), ("layouts", .obj l.layouts),
    ("componentStyles", .obj l.componentStyles),
    ("order", .arr [.texts (Table.keys l.textStyles), .texts (Table.keys l.layouts),
      .texts (Table.keys l.componentStyles)]),
    ("bundles", .texts l.bundles), ("errors", ComponentIssue.names l.issues)]

/-- What an export has made. -/
def ExportResult.report (r : ExportResult) : List (String × Json) :=
  let under (name : Text) := Json.namesUnder name r.article
  [("article", .obj r.article), ("bundles", .texts r.bundles),
    ("errors", .arr (r.issues.map fun i => i.toError.report)),
    ("component_errors", ComponentIssue.names r.issues),
    ("order", .arr [.texts (Table.keys r.article), under "componentTextStyles",
      under "componentLayouts", under "componentStyles", under "metadata"])]

end ArticleExport
