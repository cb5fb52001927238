import ArticleExport.Component.Kind
import ArticleExport.Json.Access
import ArticleExport.Spec.Registry

/-!
# Built-in templates

The specs that every kind of component brings along.  Those of quotes and asides depend on the theme:
they have a variant for dark mode only where the theme has values for it.
-/

namespace ArticleExport

open Json (fields object)

namespace Template

/-- Space above and below. -/
def margin (top bottom : Int) : Json := object [("top", .int top), ("bottom", .int bottom)]

/-- The layout of a component in the flow. -/
def flowLayout (top bottom : Int) : Json :=
  object [("columnStart", "#body_column_start#"), ("columnSpan", "#body_column_span#"),
    ("margin", margin top bottom)]

/-- The conditions of dark mode. -/
def darkMode : Json := object [("minSpecVersion", "1.14"), ("preferredColorScheme", "dark")]

/-- A list with the one variant for dark mode. -/
def inDarkMode (variant : Table Json) : Json :=
  .arr [.obj (variant ++ [(Spec.conditionsKey, darkMode)])]

/-- A placeholder for a theme value. -/
def placeholder (parts : List Text) : Json := .str (("#" : Text) ++ parts.flatten ++ ("#" : Text))

/-- Text of a role, as markup. -/
def textOf (role : Json) : Json :=
  object [("role", role), ("text", "#text#"), ("format", "html")]

/-- Font, size, height and color under the names that begin alike. -/
def fontFields (start : Text) : Table Json :=
  [("fontName", placeholder [start, "_font"]), ("fontSize", placeholder [start, "_size"]),
    ("lineHeight", placeholder [start, "_line_height"]),
    ("textColor", placeholder [start, "_color"])]

/-- The color of text in dark mode, for a variant. -/
def darkText (start : Text) : Table Json :=
  [(Spec.conditionalKey, inDarkMode [("textColor", placeholder [start, "_color_dark"])])]

/-- The line of a border. -/
def borderLine (start color : Text) : Json :=
  object [("width", placeholder [start, "_border_width"]),
    ("style", placeholder [start, "_border_style"]), ("color", placeholder [start, color])]

/-- Entries that are there under a condition. -/
def entriesIf (condition : Bool) (entries : Table Json) : Table Json :=
  if condition then entries else []

end Template

open Template

namespace Kind

/-- The specs of body text. -/
def bodySpecs : List Spec :=
  let monospaced := fontFields "monospaced"
  [⟨"body", "json", "JSON", textOf "body"⟩,
    ⟨"body", "body-layout", "Layout", flowLayout 12 12⟩,
    ⟨"body", "default-body", "Default Body Style", .obj (fields [("fontName", "#body_font#"),
      ("fontSize", "#body_size#"), ("lineHeight", "#body_line_height#"),
      ("tracking", "#body_tracking#"), ("textColor", "#body_color#"),
      ("linkStyle", object [("textColor", "#body_link_color#")]),
      ("paragraphSpacingBefore", .int 18), ("paragraphSpacingAfter", .int 18)] ++
      darkText "body")⟩,
    ⟨"body", "default-text-styles", "Default Text Styles", object [
      ("default-tag-code", .obj monospaced),
      ("default-tag-pre", .obj (monospaced ++
        fields [("textAlignment", "left"), ("paragraphSpacingAfter", .int 18)])),
      ("default-tag-samp", .obj monospaced)]⟩]

/-- The spec of the style of a heading level. -/
def headingStyle (level : Nat) : Spec :=
  let start : Text := ("header" : Text) ++ Text.ofNat level
  ⟨"heading", ("default-heading-" : Text) ++ Text.ofNat level,
    ("Level " : Text) ++ Text.ofNat level ++ (" Style" : Text),
    .obj (fontFields start ++ fields [("textAlignment", "left")] ++ darkText start)⟩

/-- The specs of headings. -/
def headingSpecs : List Spec :=
  [⟨"heading", "json", "JSON", textOf "#heading_level#"⟩,
    ⟨"heading", "heading-layout", "Layout", flowLayout 18 12⟩] ++ [1, 2, 3, 4, 5, 6].map headingStyle

/-- The specs of horizontal rules. -/
def dividerSpecs : List Spec :=
  [⟨"divider", "json", "JSON", object [("role", "divider"),
      ("stroke", object [("color", "#divider_border_color#"), ("style", "#divider_border_style#"),
        ("width", "#divider_border_width#")])]⟩,
    ⟨"divider", "divider-layout", "Layout", flowLayout 25 25⟩]

/-- The specs of photos. -/
def imageSpecs : List Spec :=
  [⟨"image", "json", "JSON",
      object [("role", "photo"), ("URL", "#url#"), ("caption", "#caption#")]⟩,
    ⟨"image", "non-anchored-image", "Non Anchored Layout", flowLayout 25 25⟩,
    ⟨"image", "full-bleed-image", "Full Bleed Layout",
      object [("ignoreDocumentMargin", .bool true), ("margin", margin 25 25)]⟩]

/-- The specs of footnotes. -/
def footnotesSpecs : List Spec :=
  [⟨"footnotes", "json", "JSON", object [("role", "container"), ("layout", "body-layout"),
      ("components", "#components#")]⟩,
    ⟨"footnotes", "footnote-json", "Individual Footnote JSON", object [("role", "body"),
      ("text", "#text#"), ("format", "html"), ("identifier", "#identifier#")]⟩,
    ⟨"footnotes", "body-layout", "Layout", flowLayout 12 12⟩]

/-- The border at the left of a block quote. -/
def quoteBorder (color : Text) : Table Json :=
  [("border", object [("all", borderLine "blockquote" color), ("top", .bool false),
    ("right", .bool false), ("bottom", .bool false)])]

/-- The specs of quotes under a theme. -/
def quoteSpecs (theme : Theme) : List Spec :=
  let hasDarkBackground := (theme.value "blockquote_background_color_dark").isTruthy
  let hasDarkBorder := (theme.value "blockquote_border_color_dark").isTruthy
  let background : Table Json := [("backgroundColor", "#blockquote_background_color#")]
  let darkBackground := entriesIf hasDarkBackground
    [("backgroundColor", "#blockquote_background_color_dark#")]
  let darkBorder := entriesIf hasDarkBorder (quoteBorder "_border_color_dark")
  [⟨"quote", "blockquote-json", "Blockquote JSON", textOf "quote"⟩,
    ⟨"quote", "pullquote-json", "Pull Quote JSON", textOf "pullquote"⟩,
    ⟨"quote", "blockquote-layout", "Blockquote Layout", object [
      ("columnStart", "#body_column_start#"), ("columnSpan", "#body_column_span#"),
      ("margin", margin 12 12), ("contentInset", .bool true)]⟩,
    ⟨"quote", "default-blockquote", "Blockquote Style",
      .obj (fontFields "blockquote" ++ darkText "blockquote")⟩,
    ⟨"quote", "default-pullquote", "Pull Quote Style",
      .obj (fontFields "pullquote" ++ fields [("textTransform", "#pullquote_transform#")] ++
        darkText "pullquote")⟩,
    ⟨"quote", "blockquote-with-border-json", "Blockquote With Border",
      .obj (background ++ quoteBorder "_border_color" ++
        entriesIf (hasDarkBackground || hasDarkBorder)
          [(Spec.conditionalKey, inDarkMode (darkBackground ++ darkBorder))])⟩,
    ⟨"quote", "blockquote-without-border-json", "Blockquote Without Border",
      .obj (background ++ entriesIf hasDarkBackground
        [(Spec.conditionalKey, inDarkMode darkBackground)])⟩]

/-- The border around an aside. -/
def asideBorder (color : Text) : Table Json := [("border", object [("all", borderLine "aside" color)])]

/-- The layout of an aside that begins at a column. -/
def asideLayout (start : Int) : Json :=
  object [("columnStart", .int start), ("columnSpan", .int 3), ("padding", "#aside_padding#"),
    ("margin", .int 20)]

/-- The specs of asides under a theme. -/
def asideSpecs (theme : Theme) : List Spec :=
  let hasDarkBackground := (theme.value "aside_background_color_dark").isTruthy
  let hasDarkBorder := (theme.value "aside_border_color_dark").isTruthy
  let background : Table Json := [("backgroundColor", "#aside_background_color#")]
  let darkBackground := entriesIf hasDarkBackground
    [("backgroundColor", "#aside_background_color_dark#")]
  let darkBorder := entriesIf hasDarkBorder (asideBorder "_border_color_dark")
  let hasDark := hasDarkBackground || hasDarkBorder
  let border : Table Json := [("border", object [("all", object [("color", "#aside_border_color#"),
    ("style", "#aside_border_style#"), ("width", "#aside_border_width#")])])]
  [⟨"aside", "json", "JSON", object [("role", "aside"), ("layout", "aside-layout"),
      ("components", "#components#")]⟩,
    ⟨"aside", "aside-with-border-json", "Aside With Border JSON",
      .obj (background ++ border ++ entriesIf hasDark
        [(Spec.conditionalKey, inDarkMode (darkBackground ++ darkBorder))])⟩,
    ⟨"aside", "aside-without-border-json", "Aside Without Border JSON",
      .obj (background ++ entriesIf hasDark
        [(Spec.conditionalKey, inDarkMode darkBackground)])⟩,
    ⟨"aside", "aside-layout-left", "Aside Layout - Left Aligned", asideLayout 0⟩,
    ⟨"aside", "aside-layout-right", "Aside Layout - Right Aligned", asideLayout 3⟩]

/-- The specs of the in-article module; themes define it. -/
def inArticleSpecs : List Spec :=
  [⟨"in_article", "json", "JSON", .obj []⟩, ⟨"in_article", "layout", "Layout", .obj []⟩]

/-- The specs of a kind of component under a theme. -/
def specs (theme : Theme) : Kind → List Spec
  | aside => asideSpecs theme
  | footnotes => footnotesSpecs
  | image => imageSpecs
  | quote => quoteSpecs theme
  | heading => headingSpecs
  | divider => dividerSpecs
  | body => bodySpecs
  | inArticle => inArticleSpecs

/-- The specs that a component of a kind looks up: the given ones before those of its kind. -/
def registry (k : Kind) (theme : Theme) (overrides : SpecRegistry) : SpecRegistry :=
  (k.specs theme).foldl SpecRegistry.registerDefault overrides

end Kind

end ArticleExport
