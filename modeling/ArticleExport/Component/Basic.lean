import ArticleExport.Article.Ledger
import ArticleExport.Article.Mapping
import ArticleExport.Component.Templates

/-!
# Components

A component holds the JSON that becomes its part of the article.  It is built by steps: each one resolves
a spec and puts the result into the JSON or into the ledger of the run.  A step does all of its work or
none of it.
-/

namespace ArticleExport

/-- How far a component has come. -/
inductive Stage where
  /-- It is not built yet. -/
  | unbuilt
  /-- It is built. -/
  | built
  /-- Its JSON has been taken. -/
  | serialized
deriving DecidableEq, Repr

/-- The name of a stage. -/
def Stage.name : Stage → Text
  | unbuilt => "unbuilt"
  | built => "built"
  | serialized => "serialized"

/-- A component of an article. -/
structure Component where
  /-- What kind of component it is. -/
  variant : Variant
  /-- The node from which it is built. -/
  node : Node
  /-- The specs that it looks up. -/
  specs : SpecRegistry
  /-- Its part of the article. -/
  json : Table Json
  /-- The kinds of the components in it. -/
  parts : List Kind
  /-- The side at which it stands beside the flow. -/
  side : Option Side
  /-- How far it has come. -/
  stage : Stage

namespace Component

/-- The component of a variant for a node, before it is built. -/
def create (theme : Theme) (overrides : SpecRegistry) (v : Variant) (n : Node) : Component where
  variant := v
  node := n
  specs := v.kind.registry theme overrides
  json := []
  parts := []
  side := none
  stage := .unbuilt

/-- The name of the component's kind. -/
def name (c : Component) : Text := c.variant.kind.name

/-- Whether the component stands beside the flow. -/
def isAnchored (c : Component) : Bool := c.side.isSome

/-- The name of the side at which the component stands. -/
def sideName (c : Component) : Text := (c.side.map Side.name).getD "none"

/-- The identifier of the component, null where it has none. -/
def identifier (c : Component) : Json := (Table.get? "identifier" c.json).getD .null

/-- The component with an entry in its JSON. -/
def set (c : Component) (name : Text) (value : Json) : Component :=
  { c with json := Table.set name value c.json }

/-- A spec of the component resolved by values and a theme. -/
def render (c : Component) (theme : Theme) (spec : Text) (values : Table Json) :
    Except Failure Json :=
  ((c.specs.get c.name spec).bind fun s => s.substitute values theme).mapError .fault

/-- A spec of the component resolved to a mapping. -/
def renderMapping (c : Component) (theme : Theme) (spec : Text) (values : Table Json) :
    Except Failure Json := do
  (← c.render theme spec values).toMapping.mapError .fault

/-- The component in one line, for messages. -/
def describe (c : Component) : Text :=
  c.variant.label ++ ("(state=" : Text) ++ c.stage.name ++ (", anchor=" : Text) ++ c.sideName ++
    (")" : Text)

end Component

/-- A step in the making of a component. -/
inductive Step where
  /-- A resolved spec becomes the JSON; one that is no object leaves it empty. -/
  | json (spec : Text) (values : Table Json)
  /-- A resolved spec is entered as a text style, and the JSON refers to it. -/
  | textStyle (name spec : Text) (values : Table Json) (property : Text)
  /-- A resolved spec is entered as a layout; the JSON refers to it unless the property is empty. -/
  | layout (name spec : Text) (values : Table Json) (property : Text)
  /-- As a layout, over all columns of the article. -/
  | wideLayout (name spec : Text) (values : Table Json) (property : Text)
  /-- A resolved spec is entered as a style of components, and the JSON refers to it. -/
  | style (name spec : Text) (values : Table Json) (property : Text)
  /-- A file is bundled. -/
  | bundle (address : Text)
  /-- The component stands at a side. -/
  | side (s : Side)
  /-- The component cannot be made. -/
  | stop (f : Failure)

namespace Step

/-- A component whose JSON refers to a name. -/
def refer (c : Component) (property name : Text) : Component :=
  if property.isEmpty then c else c.set property (.str name)

/-- A layout over all columns of the article. -/
def spanning (theme : Theme) (layout : Table Json) : Table Json :=
  Table.set "columnSpan" (theme.value "layout_columns") (Table.set "columnStart" (.int 0) layout)

/-- Carries out a step. -/
def run (theme : Theme) (c : Component) : Step → Except Failure (Component × Ledger)
  | json spec values => do
    let resolved ← c.render theme spec values
    return ({ c with json := resolved.entries?.getD [] }, .empty)
  | textStyle name spec values property => do
    let style ← c.renderMapping theme spec values
    return (c.set property (.str name), .ofTextStyle name style)
  | layout name spec values property => do
    let layout ← c.renderMapping theme spec values
    return (refer c property name, .ofLayout name layout)
  | wideLayout name spec values property => do
    let layout := (← c.render theme spec values).entries?.getD []
    return (refer c property name, .ofLayout name (.obj (spanning theme layout)))
  | style name spec values property => do
    let style ← c.renderMapping theme spec values
    return (c.set property (.str name), .ofComponentStyle name style)
  | bundle address => .ok (c, .ofBundle address)
  | side s => .ok ({ c with side := some s }, .empty)
  | stop f => .error f

end Step

/-- What comes of making a component: the component as far as it got, its entries, and what ended it. -/
structure Making where
  /-- The component. -/
  component : Component
  /-- What it entered. -/
  ledger : Ledger
  /-- What ended the work before it was done. -/
  failure : Option Failure

namespace Making

/-- Carries out steps one after the other, up to the first one that fails. -/
def steps (theme : Theme) (c : Component) : List Step → Making
  | [] => ⟨c, .empty, none⟩
  | s :: ss =>
    match s.run theme c with
    | .ok (c, entered) =>
      let rest := steps theme c ss
      ⟨rest.component, entered.merge rest.ledger, rest.failure⟩
    | .error f => ⟨c, .empty, some f⟩

/-- The component, where it was finished. -/
def toWork (m : Making) : Work Component :=
  ⟨m.ledger, match m.failure with
    | none => .ok m.component
    | some f => .error f⟩

end Making

end ArticleExport
