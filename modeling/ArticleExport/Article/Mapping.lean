import ArticleExport.Failure
import ArticleExport.Json.Printer

/-!
# Mappings

A style or layout has to be a mapping.  Besides an object, a list of pairs is taken for one, and so is
anything without items.
-/

namespace ArticleExport

namespace Json

/-- The items of a value that is a sequence: of a text its letters, of a mapping its keys. -/
def sequence? : Json → Option (List Json)
  | .arr items => some items
  | .str t => some (t.map fun c => .str [c])
  | .obj entries => some (entries.map fun e => .str e.1)
  | .keyed entries => some (entries.map fun e => ofKey e.1)
  | _ => none

/-- The item at a position of a list as a key and a value. -/
def pair (position : Nat) (item : Json) : Except Fault (Key × Json) :=
  match item.sequence? with
  | none => .error (.unsequencedItem position)
  | some [k, v] =>
    match k.key? with
    | some key => .ok (key, v)
    | none => .error (.noKey k.kindName)
  | some parts => .error (.unpairedItem position parts.length)

/-- The items of a list from a position on as keys and values. -/
def pairsFrom (position : Nat) : List Json → Except Fault (List (Key × Json))
  | [] => .ok []
  | item :: items => do
    let entry ← pair position item
    return entry :: (← pairsFrom (position + 1) items)

/-- The entries of a value that is a mapping. -/
def mapping (v : Json) : Except Fault (KeyTable Json) :=
  match v.keyedEntries?, v.sequence? with
  | some entries, _ => .ok entries
  | none, some items => (pairsFrom 0 items).map KeyTable.ofEntries
  | none, none => .error (.notIterable v.kindName)

/-- A value as a mapping. -/
def toMapping (v : Json) : Except Fault Json := v.mapping.map ofKeyed

end Json

end ArticleExport
