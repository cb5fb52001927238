import ArticleExport.Address.Basic
import ArticleExport.Component.Basic
import ArticleExport.Content.Markup

/-!
# How components are made

The steps that make a component of each kind from its node.
-/

namespace ArticleExport

namespace Component

/-- The text of a node's markup without white space around it. -/
def markupOf (n : Node) : Json := .str n.innerHtml.strip

/-- The steps for body text. -/
def bodySteps (n : Node) : List Step :=
  [.json "json" [("text", .str n.outerHtml)],
    .textStyle "default-body" "default-body" [] "textStyle",
    .layout "body-layout" "body-layout" [] "layout"]

/-- The steps for a heading. -/
def headingSteps (n : Node) : List Step :=
  match Kind.headingLevel? n.tag with
  | none => [.stop (.fault .notAHeading)]
  | some level =>
    let role := ("heading" : Text) ++ Text.ofNat level
    let style := ("default-heading-" : Text) ++ Text.ofNat level
    [.json "json" [("heading_level", .str role), ("text", markupOf n)],
      .textStyle style style [] "textStyle",
      .layout "heading-layout" "heading-layout" [] "layout"]

/-- The steps for a horizontal rule. -/
def dividerSteps : List Step :=
  [.json "json" [], .layout "divider-layout" "divider-layout" [] "layout"]

/-- The step for the style of something with a border or without one. -/
def borderStep (theme : Theme) (key withBorder withBorderSpec without withoutSpec : Text) : Step :=
  if theme.value key = Json.str "none" then .style without withoutSpec [] "style"
  else .style withBorder withBorderSpec [] "style"

/-- The steps for a pull quote with a text. -/
def pullquoteSteps (text : Json) : List Step :=
  [.json "pullquote-json" [("text", text)],
    .textStyle "default-pullquote" "default-pullquote" [] "textStyle"]

/-- The steps for a block quote with a text. -/
def blockquoteSteps (theme : Theme) (text : Json) : List Step :=
  [.json "blockquote-json" [("text", text)],
    .textStyle "default-blockquote" "default-blockquote" [] "textStyle",
    borderStep theme "blockquote_border_style" "default-blockquote-with-border"
      "blockquote-with-border-json" "default-blockquote-without-border"
      "blockquote-without-border-json"]

/-- The steps for a quote: in a figure always a pull quote. -/
def quoteSteps (theme : Theme) (n : Node) : List Step :=
  let layout := [Step.layout "blockquote-layout" "blockquote-layout" [] "layout"]
  if n.tag = "figure" then
    match n.descendants "blockquote" with
    | [] => [.stop (.fault .missingPart)]
    | quote :: _ => pullquoteSteps (markupOf quote) ++ layout
  else if n.hasClass Kind.pullquoteClass then pullquoteSteps (markupOf n) ++ layout
  else blockquoteSteps theme (markupOf n) ++ layout

/-- The caption of a figure. -/
def captionOf (n : Node) : Json :=
  if n.tag = "figure" then
    match n.descendants "figcaption" with
    | caption :: _ => if caption.hasVisibleText then .str caption.textContent.strip else .null
    | [] => .null
  else .null

/-- The start of the address of a bundled file. -/
def bundleScheme : Text := "bundle://"

/-- The steps for a photo. -/
def imageSteps (settings : Settings) (n : Node) : List Step :=
  let image := if n.tag = "img" then some n else (n.descendants "img").head?
  match image with
  | none => [.stop (.fault .missingPart)]
  | some image =>
    let source := (image.get? "src").getD []
    let layout :=
      if settings.fullBleedImages then Step.wideLayout "full-bleed-image" "full-bleed-image" [] "layout"
      else Step.layout "non-anchored-image" "non-anchored-image" [] "layout"
    let photo (address : Text) :=
      [Step.json "json" [("url", .str address), ("caption", captionOf n)], layout]
    if settings.useRemoteImages then photo source
    else .bundle source :: match Address.fileName source with
      | .ok name => photo (bundleScheme ++ name)
      | .error f => [.stop (.fault f)]

/-- The footnotes of list items, numbered from a number on. -/
def footnotes (c : Component) (theme : Theme) (number : Nat) : List Node → Except Failure (List Json)
  | [] => .ok []
  | item :: items => do
    let text := Text.ofNat number ++ (". " : Text) ++ item.innerHtml.strip
    let id := ((item.get? "id").map Json.str).getD .null
    let note ← c.render theme "footnote-json" [("text", .str text), ("identifier", id)]
    return note :: (← footnotes c theme (number + 1) items)

/-- The steps for a list of footnotes. -/
def footnotesSteps (c : Component) (theme : Theme) : List Step :=
  match footnotes c theme 1 (c.node.elementChildren.filter fun n => n.tag == Text.ofString "li") with
  | .ok notes =>
    [.json "json" [("components", .arr notes)], .layout "body-layout" "body-layout" [] []]
  | .error f => [.stop f]

/-- The steps for an aside around parts of an article. -/
def asideSteps (theme : Theme) (parts : List Json) : List Step :=
  let side := if theme.value "aside_alignment" = Json.str "left" then Side.left else Side.right
  let layout := ("aside-layout-" : Text) ++ side.name
  [.json "json" [("components", .arr parts)],
    borderStep theme "aside_border_style" "default-aside" "aside-with-border-json"
      "default-aside" "aside-without-border-json",
    .layout layout layout [] "layout", .side side]

/-- The steps for the in-article module; one without content has no layout. -/
def inArticleSteps (c : Component) (theme : Theme) : List Step :=
  match c.render theme "json" [] with
  | .ok (.obj (_ :: _)) => [.json "json" [], .wideLayout "in-article-layout" "layout" [] "layout"]
  | _ => [.json "json" []]

/-- The steps for a component around parts of an article; only asides have any. -/
def recipe (settings : Settings) (theme : Theme) (c : Component) (parts : List Json) : List Step :=
  let steps := match c.variant.kind with
    | .aside => asideSteps theme parts
    | .footnotes => footnotesSteps c theme
    | .image => imageSteps settings c.node
    | .quote => quoteSteps theme c.node
    | .heading => headingSteps c.node
    | .divider => dividerSteps
    | .body => bodySteps c.node
    | .inArticle => inArticleSteps c theme
  match c.variant.side with
  | some side => steps ++ [.side side]
  | none => steps

end Component

end ArticleExport
