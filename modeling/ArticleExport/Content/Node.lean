import ArticleExport.Table
import ArticleExport.Text.Case

/-!
# Content nodes

The tree of an item's content.  Text stands in nodes of its own; an element has a tag, attributes and
children.  A node that a component has taken is marked as claimed on a copy, so that the component
does not take it again when it looks at its own children.
-/

namespace ArticleExport

/-- A node of the content tree. -/
structure Node where
  /-- The tag; text nodes and the root have tags of their own. -/
  tag : Text
  /-- The attributes, in order. -/
  attributes : List (Text × Text)
  /-- The children, in order. -/
  children : List Node
  /-- The text of a text node. -/
  text : Text
  /-- Whether a component has taken the node. -/
  claimed : Bool
deriving Inhabited

namespace Node

/-- The tag of text nodes. -/
def textTag : Text := "#text"

/-- The tag of the root. -/
def rootTag : Text := "#root"

/-- The elements that are written without an end tag. -/
def voidTags : List Text :=
  ["area", "base", "br", "col", "embed", "hr", "img", "input", "link", "meta", "source", "track",
    "wbr"]

/-- An element.  The tag is put in lower case; an attribute that is given twice has its last value. -/
def element (tag : Text) (attributes : List (Text × Text)) (children : List Node) : Node :=
  ⟨tag.lower, Table.ofEntries attributes, children, [], false⟩

/-- A text node. -/
def ofText (t : Text) : Node := ⟨textTag, [], [], t, false⟩

/-- The root of a tree. -/
def root (children : List Node) : Node := ⟨rootTag, [], children, [], false⟩

/-- Whether a node is a text node. -/
def isText (n : Node) : Bool := n.tag == textTag

/-- The value of an attribute. -/
def get? (n : Node) (name : Text) : Option Text := Table.get? name n.attributes

/-- The class names, in order. -/
def classes (n : Node) : List Text := ((n.get? "class").getD []).words

/-- Whether a class name is among those of the node; the empty name never is. -/
def hasClass (n : Node) (name : Text) : Bool := !name.isEmpty && n.classes.contains name

/-- The children that are not text. -/
def elementChildren (n : Node) : List Node := n.children.filter fun c => !c.isText

/-- The node that positions of children lead to; a position below zero counts from the end. -/
def at? (n : Node) : List Int → Option Node
  | [] => some n
  | i :: path =>
    let i := if i < 0 then i + n.children.length else i
    if i < 0 then none else n.children[i.toNat]?.bind fun c => c.at? path

/-- The node marked as taken. -/
def claim (n : Node) : Node := { n with claimed := true }

/-- The node without an attribute. -/
def withoutAttribute (n : Node) (name : Text) : Node :=
  { n with attributes := Table.erase name n.attributes }

mutual

/-- The text of a node and of everything in it. -/
def textContent : Node → Text
  | ⟨tag, _, children, text, _⟩ => if tag = textTag then text else textContents children

/-- The texts of nodes, one after the other. -/
def textContents : List Node → Text
  | [] => []
  | n :: ns => textContent n ++ textContents ns

end

/-- Whether any of the text of a node shows. -/
def hasVisibleText (n : Node) : Bool := n.textContent.isVisible

mutual

/-- The node and everything in it, in document order. -/
def nodes : Node → List Node
  | ⟨tag, attributes, children, text, claimed⟩ =>
    ⟨tag, attributes, children, text, claimed⟩ :: nodesOf children

/-- Nodes and everything in them, in document order. -/
def nodesOf : List Node → List Node
  | [] => []
  | n :: ns => nodes n ++ nodesOf ns

end

/-- The nodes inside a node that have a tag, in document order. -/
def descendants (n : Node) (tag : Text) : List Node :=
  (nodesOf n.children).filter fun d => d.tag == tag

/-- Whether two attribute tables hold the same values. -/
def sameAttributes (s t : List (Text × Text)) : Bool :=
  s.length == t.length && s.all fun e => Table.get? e.1 t == some e.2

mutual

/-- Whether two nodes are alike, the order of attributes aside. -/
def alike : Node → Node → Bool
  | ⟨tag, attributes, children, text, claimed⟩, ⟨tag', attributes', children', text', claimed'⟩ =>
    tag == tag' && sameAttributes attributes attributes' && alikeAll children children' &&
      text == text' && claimed == claimed'

/-- Whether two lists of nodes are alike. -/
def alikeAll : List Node → List Node → Bool
  | [], [] => true
  | n :: ns, m :: ms => alike n m && alikeAll ns ms
  | _, _ => false

end

end Node

end ArticleExport
