import ArticleExport.Content.Node

/-!
# Writing nodes as markup

Text is escaped, attributes stand between double quotes, and elements without content have no end
tag.  The root is written as its children.
-/

namespace ArticleExport.Node

/-- A code point of a text, escaped for markup. -/
def escapeTextPoint : CodePoint → Text
  | .scalar '&' => "&amp;"
  | .scalar '<' => "&lt;"
  | .scalar '>' => "&gt;"
  | c => [c]

/-- A code point of an attribute value, escaped for markup. -/
def escapeValuePoint : CodePoint → Text
  | .scalar '\"' => "&quot;"
  | .scalar '\'' => "&#x27;"
  | c => escapeTextPoint c

/-- A text, escaped for markup. -/
def escapeText (t : Text) : Text := t.flatMap escapeTextPoint

/-- An attribute value, escaped for markup. -/
def escapeValue (t : Text) : Text := t.flatMap escapeValuePoint

/-- The attributes of a start tag. -/
def attributesHtml (attributes : List (Text × Text)) : Text :=
  attributes.flatMap fun (name, value) =>
    .scalar ' ' :: (name ++ (.scalar '=' :: .scalar '\"' :: (escapeValue value ++ [.scalar '\"'])))

mutual

/-- The markup of a node. -/
def outerHtml : Node → Text
  | ⟨tag, attributes, children, text, _⟩ =>
    if tag = textTag then escapeText text
    else if tag = rootTag then innerHtmlOf children
    else
      let start := .scalar '<' :: (tag ++ attributesHtml attributes ++ [.scalar '>'])
      if voidTags.contains tag then start
      else start ++ innerHtmlOf children ++ (.scalar '<' :: .scalar '/' :: (tag ++ [.scalar '>']))

/-- The markup of nodes, one after the other. -/
def innerHtmlOf : List Node → Text
  | [] => []
  | n :: ns => outerHtml n ++ innerHtmlOf ns

end

/-- The markup of the children of a node. -/
def innerHtml (n : Node) : Text := innerHtmlOf n.children

end ArticleExport.Node
