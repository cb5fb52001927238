import ArticleExport.Article.Content
import ArticleExport.Article.Mapping

/-!
# Metadata of a push

What is sent along with an article: the links of its sections, the flags that the host has set, the
maturity rating and the host's own entries.  A flag that is not set, or to no truth value, is left out.
-/

namespace ArticleExport

/-- The texts for true. -/
def trueTexts : List Text := ["true", "1", "yes"]

/-- The texts for false. -/
def falseTexts : List Text := ["false", "0", "no"]

/-- The text of a value that may stand for a truth value. -/
def flagText : Json → Text
  | .str t => t
  | .int n => Text.ofInt n
  | _ => []

/-- The truth value that a value stands for, where it stands for one. -/
def flag? : Json → Option Bool
  | .bool b => some b
  | v =>
    let t := (flagText v).strip.lower
    if trueTexts.contains t then some true
    else if falseTexts.contains t then some false
    else none

/-- The flags of the metadata, and the notes that they come from. -/
def flagNotes : List (String × String) :=
  [("isHidden", "is_hidden"), ("isPaid", "is_paid"), ("isPreview", "is_preview"),
    ("isSponsored", "is_sponsored")]

/-- The flags that the notes of an item set. -/
def flags (notes : Table Json) : Table Json :=
  flagNotes.filterMap fun (name, note) =>
    ((Table.get? note notes).bind flag?).map fun b => (Text.ofString name, Json.bool b)

/-- The links of sections, in order. -/
def sectionLinks (settings : Settings) (sections : List Key) : Table Json :=
  if sections.isEmpty then []
  else
    let links := Text.sorted (sections.map settings.sectionUrl)
    [("links", .obj [("sections", .arr (links.map Json.str))])]

/-- The maturity rating that the notes of an item give. -/
def maturityRating (notes : Table Json) : Table Json :=
  match Table.get? "maturity_rating" notes with
  | some v => if v.isTruthy then [("maturityRating", v)] else []
  | none => []

/-- The value of an entry of a type; a list may be written as JSON, and has to have items. -/
def customValue (kind value : Json) : Option Json :=
  if kind = Json.str "array" then
    let value := match value with
      | .str t => Json.parse? t
      | v => some v
    match value with
    | some (.arr (item :: items)) => some (.arr (item :: items))
    | _ => none
  else some value

/-- The name and value of an entry of the host; one without key, type or value has none. -/
def customEntry (entry : Json) : Except Fault (Option (Key × Json)) :=
  let part (name : Text) := (entry.field? name).getD .null
  let key := part "key"
  if !key.isTruthy || !(part "type").isTruthy || (part "value").isNull then .ok none
  else match customValue (part "type") (part "value") with
    | none => .ok none
    | some value =>
      match key.key? with
      | some key => .ok (some (key, value))
      | none => .error (.noKey key.kindName)

/-- The entries of the host. -/
def customEntries (entries : List Json) : Except Fault (KeyTable Json) := do
  let found ← entries.mapM customEntry
  return KeyTable.ofEntries (found.filterMap id)

/-- A change to the metadata of an item with an identifier. -/
abbrev MetadataFilter := KeyTable Json → Key → KeyTable Json

/-- The metadata of a push. -/
def publishMetadata (settings : Settings) (filter : Option MetadataFilter) (c : Content) :
    Except Fault (Table Json) := do
  let custom ← customEntries c.custom
  let data := KeyTable.update (KeyTable.ofTable
    (sectionLinks settings c.sections ++ flags c.notes ++ maturityRating c.notes)) custom
  let data := match filter with
    | some f => f data c.id
    | none => data
  return [("data", .ofKeyed data)]

end ArticleExport
