import ArticleExport.Component.Recipe

/-!
# From content to components

The nodes of the content are offered to the variants in order, and the first one that takes a node makes
its component.  A node that none takes falls back: text and inline elements become body text, elements
that the article format cannot show are entered as issues, and of any other element the children are
looked at.
-/

namespace ArticleExport

/-- Which variants the nodes are offered to, and whether loose text becomes body text. -/
structure Factory where
  /-- The variants, in order. -/
  variants : List Variant
  /-- Whether text outside of any component becomes body text. -/
  keepsLooseText : Bool
deriving DecidableEq

namespace Factory

/-- The factory of the standard variants. -/
def standard : Factory := ⟨Variant.standard, true⟩

/-- Adds a variant behind the others, unless it is there. -/
def register (f : Factory) (v : Variant) : Factory :=
  if f.variants.contains v then f else { f with variants := f.variants ++ [v] }

end Factory

/-- What the components of a run are made under. -/
structure Setup where
  /-- The settings. -/
  settings : Settings
  /-- The theme. -/
  theme : Theme
  /-- The specs that count before the built-in ones. -/
  specs : SpecRegistry
  /-- The factory for components inside components, where there is one. -/
  factory : Option Factory

namespace Setup

/-- The variants of the run. -/
def variants (s : Setup) : List Variant := (s.factory.map Factory.variants).getD []

/-- Whether loose text becomes body text. -/
def keepsLooseText (s : Setup) : Bool := s.factory.any Factory.keepsLooseText

/-- The component of a variant for a node, before it is built. -/
def create (s : Setup) (v : Variant) (n : Node) : Component := .create s.theme s.specs v n

/-- The first variant that takes a node, and the node from which it is built. -/
def match? (s : Setup) (n : Node) : Option (Variant × Node) :=
  s.variants.findSome? fun v => (v.kind.match? s.settings n).map fun m => (v, m)

end Setup

/-- The elements that the article format cannot show. -/
def unsupportedTags : List Text :=
  ["script", "iframe", "form", "object", "embed", "canvas", "noscript", "style", "input", "button",
    "select", "textarea", "video", "audio"]

/-- The elements that stand inside of text. -/
def inlineTags : List Text :=
  ["a", "abbr", "b", "br", "cite", "code", "del", "em", "i", "ins", "kbd", "mark", "q", "s", "samp",
    "small", "span", "strong", "sub", "sup", "u"]

/-- The failure of an aside without a factory for its components. -/
def noFactory : Failure :=
  .error (.componentState "No component factory attached to the export context")

/-- The variant of components beside the flow is the only one with components inside. -/
def Variant.isParent (v : Variant) : Bool := v.kind == .aside

namespace Component

/-- The part of the article that a finished component is. -/
def fragment (c : Component) : Json := .obj c.json

/-- Makes a component around the components that the work for its content yields. -/
def make (s : Setup) (c : Component) (content : Work (List Component)) : Making :=
  let finish (c : Component) (parts : List Json) : Making :=
    let m := Making.steps s.theme c (c.recipe s.settings s.theme parts)
    { m with component := if m.failure.isNone then { m.component with stage := .built } else m.component }
  if c.variant.isParent then
    if s.factory.isNone then ⟨c, .empty, some noFactory⟩
    else match content.result with
      | .error f => ⟨c, content.ledger, some f⟩
      | .ok parts =>
        let m := finish { c with parts := parts.map fun p => p.variant.kind } (parts.map fragment)
        { m with ledger := content.ledger.merge m.ledger }
  else finish c []

end Component

namespace Setup

/-- A built component of a variant for a node that has no components inside. -/
def buildPlain (s : Setup) (v : Variant) (n : Node) : Work (List Component) := do
  let c ← ((s.create v n).make s (.done [])).toWork
  return [c]

/-- The component of a node that belongs into text. -/
def buildLoose (s : Setup) (n : Node) : Work (List Component) :=
  s.buildPlain .body (.element "p" [] [n])

mutual

/-- The components of a node. -/
def walk (s : Setup) : Node → Work (List Component)
  | ⟨tag, attributes, children, text, claimed⟩ =>
    let n : Node := ⟨tag, attributes, children, text, claimed⟩
    if n.isText then
      if n.hasVisibleText && s.keepsLooseText then s.buildLoose n else .done []
    else match s.match? n with
      | some (v, m) =>
        if v.isParent then
          (((s.create v m).make s (walkAll s children)).toWork).andThen fun c => .done [c]
        else s.buildPlain v m
      | none =>
        if unsupportedTags.contains tag then ⟨.ofIssue tag, .ok []⟩
        else if inlineTags.contains tag && n.hasVisibleText && s.keepsLooseText then s.buildLoose n
        else walkAll s children

/-- The components of nodes, in order. -/
def walkAll (s : Setup) : List Node → Work (List Component)
  | [] => .done []
  | n :: ns => (walk s n).andThen fun cs => (walkAll s ns).andThen fun ds => .done (cs ++ ds)

end

end Setup

end ArticleExport
