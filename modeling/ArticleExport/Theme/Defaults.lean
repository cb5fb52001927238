import ArticleExport.Json.Basic

/-!
# Default theme values

Every placeholder of the built-in templates has a value here.  The values for dark mode are empty, so
that dark variants stay away until a theme sets them.
-/

namespace ArticleExport.Theme

/-- The columns, margins and spans of an article. -/
def layoutDefaults : Table Json :=
  [("layout_columns", .int 7), ("layout_width", .int 1024), ("layout_margin", .int 100),
    ("layout_gutter", .int 20), ("body_column_start", .int 0), ("body_column_span", .int 7),
    ("anchor_column_span", .int 3)]

/-- The look of body text and of monospaced text. -/
def bodyDefaults : Table Json :=
  [("body_font", "AvenirNext-Regular"), ("body_size", .int 18), ("body_line_height", .int 24),
    ("body_tracking", .int 0), ("body_color", "#4f4f4f"), ("body_color_dark", ""),
    ("body_link_color", "#428bca"), ("body_background_color", "#fafafa"),
    ("monospaced_font", "Menlo-Regular"), ("monospaced_size", .int 16),
    ("monospaced_line_height", .int 20), ("monospaced_color", "#4f4f4f")]

/-- The size of each heading level. -/
def headingSizes : List (Nat × Int) := [(1, 48), (2, 32), (3, 24), (4, 21), (5, 18), (6, 16)]

/-- The key of a heading value. -/
def headingKey (level : Nat) (part : Text) : Text :=
  ("header" : Text) ++ Text.ofNat level ++ ("_" : Text) ++ part

/-- The look of the headings, level by level. -/
def headingDefaults : Table Json :=
  headingSizes.flatMap fun (level, size) =>
    [(headingKey level "font", "AvenirNext-Bold"), (headingKey level "size", .int size),
      (headingKey level "line_height", .int (size + 4)), (headingKey level "color", "#333333"),
      (headingKey level "color_dark", "")]

/-- The look of block quotes and pull quotes. -/
def quoteDefaults : Table Json :=
  [("blockquote_font", "AvenirNext-Regular"), ("blockquote_size", .int 18),
    ("blockquote_line_height", .int 24), ("blockquote_color", "#4f4f4f"),
    ("blockquote_color_dark", ""), ("blockquote_background_color", "#e1e1e1"),
    ("blockquote_background_color_dark", ""), ("blockquote_border_color", "#4f4f4f"),
    ("blockquote_border_color_dark", ""), ("blockquote_border_style", "solid"),
    ("blockquote_border_width", .int 3), ("pullquote_font", "AvenirNext-Bold"),
    ("pullquote_size", .int 48), ("pullquote_line_height", .int 48),
    ("pullquote_color", "#53585f"), ("pullquote_color_dark", ""),
    ("pullquote_transform", "uppercase")]

/-- The look of asides. -/
def asideDefaults : Table Json :=
  [("aside_alignment", "right"), ("aside_background_color", "#e1e1e1"),
    ("aside_background_color_dark", ""), ("aside_border_color", "#4f4f4f"),
    ("aside_border_color_dark", ""), ("aside_border_style", "solid"),
    ("aside_border_width", .int 3), ("aside_padding", .int 20)]

/-- The look of captions and dividers. -/
def mediaDefaults : Table Json :=
  [("caption_font", "AvenirNext-Italic"), ("caption_size", .int 16),
    ("caption_line_height", .int 24), ("caption_color", "#4f4f4f"), ("caption_color_dark", ""),
    ("divider_border_color", "#e1e1e1"), ("divider_border_style", "solid"),
    ("divider_border_width", .int 1)]

/-- The key of the customized templates. -/
def templatesKey : Text := "json_templates"

/-- All default values. -/
def defaults : Table Json :=
  layoutDefaults ++ bodyDefaults ++ headingDefaults ++ quoteDefaults ++ asideDefaults ++
    mediaDefaults ++ [(templatesKey, .obj [])]

end ArticleExport.Theme
