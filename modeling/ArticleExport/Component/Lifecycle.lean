import ArticleExport.Component.Walk

/-!
# The life of a component

A component is built once, and its JSON is taken once it is built.
-/

namespace ArticleExport.Component

/-- The failure of a component that is used out of turn. -/
def outOfTurn (c : Component) (what : Text) : Failure :=
  .error (.componentState (("Component '" : Text) ++ c.name ++ ("' " : Text) ++ what))

/-- The components for the content of a component; only a parent has any. -/
def content (s : Setup) (c : Component) : Work (List Component) :=
  if c.variant.isParent then s.walkAll c.node.children else .done []

/-- Builds a component that is not built yet. -/
def build (s : Setup) (c : Component) : Making :=
  if c.stage = .unbuilt then c.make s (c.content s)
  else ⟨c, .empty, some (c.outOfTurn "was already built")⟩

/-- Takes the JSON of a component that is built. -/
def serialize (c : Component) : Except Failure (Json × Component) :=
  if c.stage = .unbuilt then .error (c.outOfTurn "has not been built")
  else .ok (c.fragment, { c with stage := .serialized })

/-- Makes the components of a node parts of the component, and takes their JSON. -/
def buildParts (s : Setup) (c : Component) (n : Node) : Making × List Json :=
  if !c.variant.isParent then (⟨c, .empty, some (c.outOfTurn "cannot have sub-components")⟩, [])
  else if s.factory.isNone then (⟨c, .empty, some noFactory⟩, [])
  else
    let work := s.walkAll n.children
    match work.result with
    | .ok parts =>
      (⟨{ c with parts := parts.map fun p => p.variant.kind }, work.ledger, none⟩,
        parts.map fragment)
    | .error f => (⟨c, work.ledger, some f⟩, [])

/-- Registers a spec for the component unless there is one under its name. -/
def registerSpec (c : Component) (name label : Text) (template : Json) : Component :=
  { c with specs := c.specs.registerDefault ⟨c.name, name, label, template⟩ }

end ArticleExport.Component
