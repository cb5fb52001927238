import ArticleExport.Json.Basic

/-!
# Pruning

Takes everything empty out of a value, from the inside outwards: null, empty texts, empty lists and
empty objects.  False and zero are not empty.
-/

namespace ArticleExport.Json

mutual

/-- The value without the empty parts in it. -/
def prune : Json → Json
  | arr items => arr (pruneItems items)
  | obj entries => obj (pruneEntries entries)
  | v => v

/-- The items that are not empty once pruned. -/
def pruneItems : List Json → List Json
  | [] => []
  | v :: vs => if (prune v).isEmpty then pruneItems vs else prune v :: pruneItems vs

/-- The entries whose values are not empty once pruned. -/
def pruneEntries : List (Text × Json) → List (Text × Json)
  | [] => []
  | (k, v) :: es => if (prune v).isEmpty then pruneEntries es else (k, prune v) :: pruneEntries es

end

end ArticleExport.Json
