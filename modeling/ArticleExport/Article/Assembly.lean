import ArticleExport.Article.Anchors
import ArticleExport.Article.Metadata
import ArticleExport.Article.TextStyles
import ArticleExport.Component.Lifecycle
import ArticleExport.Content.Reader
import ArticleExport.Theme.Store

/-!
# Assembly

An article is put together from a content tree in four stages: the text styles of its markup are declared,
the content becomes components, the in-article module goes in between, and the anchors are resolved.
Nothing but the tree, the settings, the theme and the specs has a say in it.
-/

namespace ArticleExport

/-- What an export yields. -/
structure ExportResult where
  /-- The article. -/
  article : Table Json
  /-- The addresses of the files that go with it. -/
  bundles : List Text
  /-- The content that no component could show. -/
  issues : List ComponentIssue
deriving DecidableEq

/-- The position of the in-article module among a number of components. -/
def modulePosition (position : Int) (n : Nat) : Nat := (max 0 (min position n)).toNat

/-- The components with the in-article module among them; a module without content is left out. -/
def insertModule (position : Int) (module : Component) (cs : List Component) : List Component :=
  if module.json.isEmpty then cs
  else
    let i := modulePosition position cs.length
    cs.take i ++ module :: cs.drop i

namespace Setup

/-- The entries for the text styles of the markup, where the settings ask for them. -/
def tagStyles (s : Setup) : Work PUnit :=
  if s.settings.htmlSupport then
    let spec := (Kind.body.registry s.theme s.specs).find? "body" "default-text-styles"
    match addTagStyles [] spec s.theme with
    | (styles, .ok _) => .enter { Ledger.empty with textStyles := styles }
    | (_, .error f) => .failed (.fault f)
  else .done ⟨⟩

/-- The in-article module. -/
def module (s : Setup) : Work Component :=
  ((s.create .inArticle (.element "div" [] [])).build s).toWork

/-- The components of a content tree with the in-article module among them. -/
def components (s : Setup) (root : Node) : Work (List Component) := do
  s.tagStyles
  let cs ← s.walkAll root.children
  let module ← s.module
  return insertModule s.settings.inArticlePosition module cs

/-- The columns, width and spaces of an article. -/
def articleLayout (theme : Theme) : Json :=
  .obj [("columns", theme.value "layout_columns"), ("width", theme.value "layout_width"),
    ("margin", theme.value "layout_margin"), ("gutter", theme.value "layout_gutter")]

/-- The article of components and their entries. -/
def article (s : Setup) (info : ArticleInfo) (ledger : Ledger) (cs : List Component)
    (layouts : Table Json) : Table Json :=
  [("version", .str formatVersion), ("identifier", info.identifier),
    ("title", info.title), ("language", info.language),
    ("layout", articleLayout s.theme), ("components", .arr (cs.map Component.fragment)),
    ("componentTextStyles", .obj ledger.textStyles), ("componentLayouts", .obj layouts),
    ("componentStyles", .obj ledger.componentStyles), ("metadata", .obj info.metadata)]

/-- Puts the article of a content tree together. -/
def assemble (s : Setup) (root : Node) (info : ArticleInfo) : Except Failure ExportResult := do
  let work := s.components root
  let cs ← work.result
  let anchored ← (resolveAnchors s.theme cs work.ledger.layouts).mapError .fault
  return ⟨s.article info work.ledger anchored.components anchored.layouts, work.ledger.bundles,
    work.ledger.issues⟩

end Setup

/-- What articles are assembled with. -/
structure Assembler where
  /-- The settings. -/
  settings : Settings
  /-- The themes to choose from. -/
  themes : ThemeStore
  /-- The variants that the content is offered to. -/
  variants : List Variant
  /-- The specs that count before the built-in ones. -/
  specs : SpecRegistry

namespace Assembler

/-- The setup of a run for content in sections. -/
def setup (a : Assembler) (sections : List Key) : Setup :=
  ⟨a.settings, a.themes.used sections, a.specs, some ⟨a.variants, true⟩⟩

/-- Puts the article of a content tree together. -/
def assemble (a : Assembler) (root : Node) (sections : List Key) (info : ArticleInfo) :
    Except Failure ExportResult :=
  (a.setup sections).assemble root info

end Assembler

end ArticleExport
