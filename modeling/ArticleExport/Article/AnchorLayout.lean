import ArticleExport.Failure
import ArticleExport.Json.Basic
import ArticleExport.Number.Binary
import ArticleExport.Number.Whole
import ArticleExport.Theme.Basic

/-!
# Layouts of anchored components

A component beside the flow spans a few columns at the left or at the right edge of the article.
-/

namespace ArticleExport

/-- The side at which a component stands beside the flow. -/
inductive Side where
  /-- At the left. -/
  | left
  /-- At the right. -/
  | right
deriving DecidableEq, Repr

namespace Side

/-- The name of a side. -/
def name : Side → Text
  | left => "left"
  | right => "right"

/-- The name of the layout for components at a side. -/
def layoutName (s : Side) : Text := ("anchor-layout-" : Text) ++ s.name

end Side

/-- The whole part of a value. -/
def wholeOf : Json → Except Fault Int
  | .int n => .ok n
  | .bool b => .ok (if b then 1 else 0)
  | .float x => match truncate? x with
    | some n => .ok n
    | none => .error (if x.isNaN then .undefinedNumber else .infiniteNumber)
  | .str t => wholeOfText t
  | v => .error (.notANumber v.kindName)

/-- The layout of a component at a side of an article: the first columns, or the last ones. -/
def anchorLayout (theme : Theme) (side : Side) : Except Fault Json := do
  let columns ← wholeOf (theme.value "layout_columns")
  let span := min (← wholeOf (theme.value "anchor_column_span")) columns
  let start := match side with
    | .left => 0
    | .right => columns - span
  return .obj [("columnStart", .int start), ("columnSpan", .int span),
    ("margin", .obj [("bottom", .int 20)])]

end ArticleExport
