import ArticleExport.Content.Node
import ArticleExport.Json.Access

/-!
# Nodes as JSON

A text node is its text, and any other node an object of its tag, its attributes in pairs, its children, and
the mark of a node that is claimed.
-/

namespace ArticleExport.Node

/-- The attributes in a list of pairs. -/
def attributesOf (v : Json) : List (Text × Text) :=
  v.itemsOf.map fun pair =>
    match pair.textsOf with
    | [name, value] => (name, value)
    | _ => ([], [])

/-- The element of the parts of an object. -/
def ofParts (entries : Table Json) (children : List Node) : Node :=
  let part (name : Text) := (Table.get? name entries).getD .null
  let n := element (part "tag").textOf (attributesOf (part "attrs")) children
  if (part "claimed").isTruthy then n.claim else n

mutual

/-- The node of a JSON value. -/
def ofJson : Json → Node
  | .str t => ofText t
  | .obj entries => ofParts entries (childrenOf entries)
  | _ => ofText []

/-- The children in the entries of an object. -/
def childrenOf : List (Text × Json) → List Node
  | [] => []
  | (k, v) :: entries =>
    if k = Text.ofString "children" then
      match v with
      | .arr items => ofItems items
      | _ => []
    else childrenOf entries

/-- The nodes of a list. -/
def ofItems : List Json → List Node
  | [] => []
  | v :: vs => ofJson v :: ofItems vs

end

mutual

/-- The node as a JSON value. -/
def toJson : Node → Json
  | ⟨tag, attributes, children, text, claimed⟩ =>
    if tag == textTag then .str text
    else .object ([("tag", .str tag),
      ("attrs", .arr (attributes.map fun a => .arr [.str a.1, .str a.2])),
      ("children", .arr (toItems children))] ++ if claimed then [("claimed", .bool true)] else [])

/-- Nodes as JSON values. -/
def toItems : List Node → List Json
  | [] => []
  | n :: ns => toJson n :: toItems ns

end

end ArticleExport.Node
