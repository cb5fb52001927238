import ArticleExport.Json.Basic

/-!
# Parts of values

Reading what a host hands over and writing what it gets: the parts of a value, with something empty in place
of a part that is missing or of another kind, and objects under written names.
-/

namespace ArticleExport.Json

/-- A field of an object, null where it is missing. -/
def field (name : String) (v : Json) : Json := (v.field? name).getD .null

/-- The text of a value, where it is one. -/
def text? : Json → Option Text
  | .str t => some t
  | _ => none

/-- The text of a value, the empty one where it is none. -/
def textOf (v : Json) : Text := (text? v).getD []

/-- The text of a value; a whole number is one too, and any other value has a given one. -/
def textOr (other : Text) : Json → Text
  | .str t => t
  | .int n => Text.ofInt n
  | _ => other

/-- The key that a value is, null for a list or an object. -/
def keyOf (v : Json) : Key := v.key?.getD .null

/-- The whole number that a value is. -/
def int? : Json → Option Int
  | .int n => some n
  | _ => none

/-- The items of a value. -/
def itemsOf : Json → List Json
  | .arr items => items
  | _ => []

/-- The item of a list at a position, null where there is none. -/
def item (v : Json) (i : Nat) : Json := ((itemsOf v)[i]?).getD .null

/-- The entries of a value. -/
def entriesOf (v : Json) : Table Json := v.entries?.getD []

/-- The texts of a list. -/
def textsOf (v : Json) : List Text := (itemsOf v).map textOf

/-- The texts of a list; a text stands for the list of its characters. -/
def textsOrCharacters : Json → List Text
  | .str t => t.map fun c => [c]
  | v => textsOf v

/-- Entries under written names. -/
def fields (entries : List (String × Json)) : Table Json :=
  entries.map fun e => (Text.ofString e.1, e.2)

/-- An object of entries under written names. -/
def object (entries : List (String × Json)) : Json := .obj (fields entries)

/-- A list of texts. -/
def texts (ts : List Text) : Json := .arr (ts.map str)

/-- A text or null. -/
def orNull (t : Option Text) : Json := (t.map str).getD .null

/-- A natural number. -/
def nat (n : Nat) : Json := .int n

end ArticleExport.Json
