import ArticleExport.Article.AnchorLayout
import ArticleExport.Component.Basic

/-!
# Anchors

A component beside the flow is attached to one in the flow: to the next one, or to the one before where
none comes behind it.  The target is given an identifier where it has none.
-/

namespace ArticleExport

/-- The identifier that is made up for the component with a number. -/
def componentIdentifier (n : Nat) : Text := ("component-" : Text) ++ Text.ofNat n

/-- The position of the first component in the flow. -/
def firstInFlow? (cs : List Component) : Option Nat := cs.findIdx? fun c => !c.isAnchored

/-- The position of the last component in the flow. -/
def lastInFlow? (cs : List Component) : Option Nat :=
  (firstInFlow? cs.reverse).map fun i => cs.length - 1 - i

/-- The position of the component to which the one at a position is attached. -/
def anchorTarget? (cs : List Component) (i : Nat) : Option Nat :=
  match firstInFlow? (cs.drop (i + 1)) with
  | some k => some (i + 1 + k)
  | none => lastInFlow? (cs.take i)

/-- What resolving anchors has come to. -/
structure Anchoring where
  /-- The components. -/
  components : List Component
  /-- The layouts of the article. -/
  layouts : Table Json
  /-- How many identifiers were made up. -/
  identifiers : Nat

namespace Anchoring

/-- The state with an identifier for the component at a position. -/
def identify (a : Anchoring) (target : Nat) : Anchoring :=
  match a.components[target]? with
  | some c =>
    if c.identifier.isTruthy then a
    else
      let c := c.set "identifier" (.str (componentIdentifier (a.identifiers + 1)))
      { a with components := a.components.set target c, identifiers := a.identifiers + 1 }
  | none => a

/-- The anchor of a component at the center of its target. -/
def anchor (target : Json) : Json :=
  .obj [("targetComponentIdentifier", target), ("targetAnchorPosition", "center")]

/-- Attaches the component at a position, where it stands beside the flow. -/
def attach (theme : Theme) (a : Anchoring) (i : Nat) : Except Fault Anchoring :=
  match a.components[i]? with
  | none => .ok a
  | some c =>
    match c.side, anchorTarget? a.components i with
    | some side, some target => do
      let a := a.identify target
      let identifier := (a.components[target]?.map Component.identifier).getD .null
      let c := c.set "anchor" (anchor identifier)
      if c.variant.needsLayout then
        let layout ← anchorLayout theme side
        return { a with
          components := a.components.set i (c.set "layout" (.str side.layoutName))
          layouts := Table.setIfAbsent side.layoutName layout a.layouts }
      else return { a with components := a.components.set i c }
    | _, _ => .ok a

end Anchoring

/-- The components with their anchors, and the layouts with those of the anchored components. -/
def resolveAnchors (theme : Theme) (cs : List Component) (layouts : Table Json) :
    Except Fault Anchoring :=
  (List.range cs.length).foldlM (Anchoring.attach theme) ⟨cs, layouts, 0⟩

end ArticleExport
