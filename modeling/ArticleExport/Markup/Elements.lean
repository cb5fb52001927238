import ArticleExport.Text.Basic

/-!
# What the reader knows about elements

Elements without content, elements whose content is not markup, the start tags that close an open
element, and how far an end tag reaches.
-/

namespace ArticleExport.Markup

/-- The elements that never have content. -/
def contentless : List Text :=
  ["area", "base", "basefont", "br", "col", "frame", "hr", "img", "input", "isindex", "link", "meta",
    "param"]

/-- The attributes that stand for themselves when they are given without a value. -/
def selfNamedAttributes : List Text :=
  ["checked", "compact", "declare", "defer", "disabled", "ismap", "multiple", "nohref", "noresize",
    "noshade", "nowrap", "readonly", "selected"]

/-- How the content of an element is read. -/
inductive ContentMode where
  /-- As markup. -/
  | markup
  /-- As text in which references count. -/
  | referenced
  /-- As text. -/
  | raw
  /-- As a script, whose comments may hide an end tag. -/
  | script
  /-- As text up to the end of the document. -/
  | plain
deriving DecidableEq

/-- How the content of an element with a tag is read. -/
def contentMode (tag : Text) : ContentMode :=
  if tag = "script" then .script
  else if tag ∈ (["iframe", "noembed", "noframes", "style", "xmp"] : List Text) then .raw
  else if tag ∈ (["textarea", "title"] : List Text) then .referenced
  else if tag = "plaintext" then .plain
  else .markup

/-- The start tags that close an open heading. -/
def headingClosers : List String := ["fieldset", "form", "li", "p", "table"]

/-- The start tags that close open preformatted text. -/
def preformattedClosers : List String :=
  ["dd", "dl", "dt", "fieldset", "form", "li", "table", "ul"]

/-- For open elements, the start tags that close them. -/
def closers : List (String × List String) :=
  [("a", ["a", "fieldset", "table", "td", "th"]),
    ("address", ["dd", "dl", "dt", "form", "li", "ul"]),
    ("b", ["center", "p", "td", "th"]),
    ("big", ["p"]),
    ("caption", ["col", "colgroup", "tbody", "tfoot", "thead", "tr"]),
    ("col", ["col", "colgroup", "tbody", "tfoot", "thead", "tr"]),
    ("colgroup", ["colgroup", "tbody", "tfoot", "thead", "tr"]),
    ("dd", ["dt"]),
    ("dir", ["dd", "dl", "dt", "form", "ul"]),
    ("dl", ["form", "li"]),
    ("dt", ["dd", "dl"]),
    ("font", ["center", "td", "th"]),
    ("form", ["form"]),
    ("h1", headingClosers), ("h2", headingClosers), ("h3", headingClosers),
    ("h4", headingClosers), ("h5", headingClosers), ("h6", headingClosers),
    ("head", ["a", "abbr", "acronym", "address", "b", "bdo", "big", "blockquote", "body", "br",
      "center", "cite", "code", "dd", "dfn", "dir", "div", "dl", "dt", "em", "fieldset", "font",
      "form", "frameset", "h1", "h2", "h3", "h4", "h5", "h6", "hr", "i", "iframe", "img", "kbd",
      "li", "listing", "map", "menu", "ol", "p", "pre", "q", "s", "samp", "small", "span", "strike",
      "strong", "sub", "sup", "table", "tt", "u", "ul", "var", "xmp"]),
    ("hr", ["form"]),
    ("i", ["center", "p", "td", "th"]),
    ("legend", ["fieldset"]),
    ("li", ["li"]),
    ("link", ["body", "frameset"]),
    ("listing", preformattedClosers),
    ("menu", ["dd", "dl", "dt", "form", "ul"]),
    ("ol", ["form"]),
    ("option", ["optgroup", "option"]),
    ("p", ["address", "blockquote", "body", "caption", "center", "col", "colgroup", "dd", "dir",
      "div", "dl", "dt", "fieldset", "form", "frameset", "h1", "h2", "h3", "h4", "h5", "h6", "head",
      "hr", "li", "listing", "menu", "ol", "p", "pre", "table", "tbody", "td", "tfoot", "th",
      "title", "tr", "ul", "xmp"]),
    ("pre", preformattedClosers),
    ("s", ["p"]),
    ("script", ["noscript"]),
    ("small", ["p"]),
    ("span", ["td", "th"]),
    ("strike", ["p"]),
    ("style", ["body", "frameset"]),
    ("tbody", ["tbody", "tfoot"]),
    ("td", ["tbody", "td", "tfoot", "th", "tr"]),
    ("tfoot", ["tbody"]),
    ("th", ["tbody", "td", "tfoot", "th", "tr"]),
    ("thead", ["tbody", "tfoot"]),
    ("title", ["body", "frameset"]),
    ("tr", ["tbody", "tfoot", "tr"]),
    ("tt", ["p"]),
    ("u", ["p", "td", "th"]),
    ("ul", ["address", "form", "menu", "pre"]),
    ("xmp", preformattedClosers)]

/-- Whether a start tag closes an open element. -/
def closes (start openTag : Text) : Bool :=
  closers.any fun e => (e.1 : Text) == openTag && e.2.any fun tag => (tag : Text) == start

/-- How far an end tag reaches: it closes no element of a higher rank on its way. -/
def endRank (tag : Text) : Nat :=
  if tag = "div" then 150
  else if tag = "td" ∨ tag = "th" then 160
  else if tag = "tr" then 170
  else if tag ∈ (["thead", "tbody", "tfoot"] : List Text) then 180
  else if tag = "table" then 190
  else if tag = "head" ∨ tag = "body" then 200
  else if tag = "html" then 220
  else 100

/-- The elements that belong into the head of a document. -/
def headTags : List Text := ["base", "link", "meta", "script", "style", "title"]

/-- The elements of a document that has frames instead of a body. -/
def frameTags : List Text := ["frame", "frameset", "noframes"]

end ArticleExport.Markup
