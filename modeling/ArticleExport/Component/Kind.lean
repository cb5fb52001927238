import ArticleExport.Article.AnchorLayout
import ArticleExport.Content.Node
import ArticleExport.Settings.Basic

/-!
# Kinds of components

Each kind of component takes certain nodes of the content.  Which node it is built from may differ from
the node it was offered: a paragraph that holds nothing but an image becomes that image.
-/

namespace ArticleExport

/-- What a component is. -/
inductive Kind where
  /-- Content beside the flow, with components of its own. -/
  | aside
  /-- The list of footnotes. -/
  | footnotes
  /-- A photo. -/
  | image
  /-- A block quote or a pull quote. -/
  | quote
  /-- A heading. -/
  | heading
  /-- A horizontal rule. -/
  | divider
  /-- Body text. -/
  | body
  /-- The module that a theme may put between the components. -/
  | inArticle
deriving DecidableEq, Repr

namespace Kind

/-- The name under which the specs of a kind are registered. -/
def name : Kind → Text
  | aside => "aside"
  | footnotes => "footnotes"
  | image => "image"
  | quote => "quote"
  | heading => "heading"
  | divider => "divider"
  | body => "body"
  | inArticle => "in_article"

/-- The class of a pull quote. -/
def pullquoteClass : Text := "pullquote"

/-- The class of the list of footnotes. -/
def footnotesClass : Text := "wp-block-footnotes"

/-- The level of a heading tag; a line break behind it does not matter. -/
def headingLevel? (tag : Text) : Option Nat :=
  match tag with
  | [.scalar 'h', d] | [.scalar 'h', d, .scalar '\n'] =>
    if 49 ≤ d.value && d.value ≤ 54 then some (d.value - 48) else none
  | _ => none

/-- The tags whose elements may wrap an image. -/
def wrapperTags : List Text := ["p", "a"]

/-- The tags of body text. -/
def bodyTags : List Text := ["p", "ul", "ol", "pre", "table", "dl"]

mutual

/-- The image that an element holds and nothing else, wrapped perhaps more than once. -/
def singleImage? : Node → Option Node
  | ⟨_, _, children, _, _⟩ =>
    if (Node.textContents children).isVisible then none else onlyImage? children

/-- The image that stands alone among nodes. -/
def onlyImage? : List Node → Option Node
  | [] => none
  | n :: ns =>
    if n.isText then onlyImage? ns
    else if ns.all Node.isText then
      if n.tag = "img" then some n
      else if wrapperTags.contains n.tag then singleImage? n
      else none
    else none

end

/-- Whether an attribute has a value with something in it. -/
def hasValue (n : Node) (name : Text) : Bool := !((n.get? name).getD []).isEmpty

/-- The node from which a component of this kind is built when it is offered a node. -/
def match? (settings : Settings) (n : Node) : Kind → Option Node
  | aside =>
    if !settings.asideClass.isEmpty && !n.claimed && n.hasClass settings.asideClass then some n
    else none
  | footnotes => if n.tag = "ol" ∧ n.hasClass footnotesClass then some n else none
  | image =>
    if n.tag = "img" then if hasValue n "src" then some n else none
    else if n.tag = "figure" ∧ !(n.descendants "img").isEmpty then some n
    else if wrapperTags.contains n.tag then (singleImage? n).filter fun image => hasValue image "src"
    else none
  | quote =>
    if n.tag = "blockquote" then if n.hasVisibleText then some n else none
    else if n.tag = "figure" ∧ n.hasClass pullquoteClass then
      if (n.descendants "blockquote").head?.any Node.hasVisibleText then some n else none
    else none
  | heading => if (headingLevel? n.tag).isSome ∧ n.hasVisibleText then some n else none
  | divider => if n.tag = "hr" then some n else none
  | body =>
    if !bodyTags.contains n.tag then none
    else if n.tag = "p" ∧ !n.hasVisibleText then none
    else some n
  | inArticle => none

end Kind

/-- A kind of component under a name of its own, which may stand beside the flow. -/
structure Variant where
  /-- The name of the variant. -/
  label : Text
  /-- What its components are. -/
  kind : Kind
  /-- The side at which its components stand once they are built. -/
  side : Option Side
  /-- Whether its components are given a layout when they stand beside the flow. -/
  needsLayout : Bool
deriving DecidableEq, Repr

namespace Variant

/-- A variant that stays in the flow unless its kind says otherwise. -/
def plain (label : Text) (kind : Kind) : Variant := ⟨label, kind, none, kind != .aside⟩

/-- Asides. -/
def aside : Variant := plain "Aside" .aside

/-- Lists of footnotes. -/
def footnotes : Variant := plain "Footnotes" .footnotes

/-- Photos. -/
def image : Variant := plain "Image" .image

/-- Quotes. -/
def quote : Variant := plain "Quote" .quote

/-- Headings. -/
def heading : Variant := plain "Heading" .heading

/-- Horizontal rules. -/
def divider : Variant := plain "Divider" .divider

/-- Body text. -/
def body : Variant := plain "Body" .body

/-- The module between the components. -/
def inArticle : Variant := plain "InArticle" .inArticle

/-- The variants that are offered the nodes, in this order. -/
def standard : List Variant := [aside, footnotes, image, quote, heading, divider, body]

end Variant

end ArticleExport
