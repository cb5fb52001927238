import ArticleExport.Spec.Substitution

/-!
# Spec registries

Specs by component and name.  Registering a spec replaces the one under its name; registering a
default keeps what is there, so that an override counts whether it came before or after.
-/

namespace ArticleExport

/-- Specs by component and name, both in the order of their first registration. -/
structure SpecRegistry where
  /-- The specs of each component. -/
  byComponent : Table (Table Spec)
deriving DecidableEq

namespace SpecRegistry

/-- The registry without specs. -/
def empty : SpecRegistry := ⟨[]⟩

instance : Inhabited SpecRegistry := ⟨empty⟩

/-- The specs of a component. -/
def specsFor (r : SpecRegistry) (component : Text) : Table Spec :=
  (Table.get? component r.byComponent).getD []

/-- The spec under a component and name. -/
def find? (r : SpecRegistry) (component name : Text) : Option Spec :=
  Table.get? name (r.specsFor component)

/-- Whether there is a spec under a component and name. -/
def has (r : SpecRegistry) (component name : Text) : Bool := (r.find? component name).isSome

/-- Registers a spec; the last registration counts. -/
def register (r : SpecRegistry) (s : Spec) : SpecRegistry :=
  ⟨Table.set s.component (Table.set s.name s (r.specsFor s.component)) r.byComponent⟩

/-- Registers a spec unless there is one under its name. -/
def registerDefault (r : SpecRegistry) (s : Spec) : SpecRegistry :=
  if r.has s.component s.name then r else r.register s

/-- The spec under a component and name, which has to be there. -/
def get (r : SpecRegistry) (component name : Text) : Except Fault Spec :=
  match r.find? component name with
  | some s => .ok s
  | none => .error (.unknownSpec component name (Table.keys (r.specsFor component)))

/-- The components that have specs. -/
def components (r : SpecRegistry) : List Text := Table.keys r.byComponent

/-- The number of specs. -/
def size (r : SpecRegistry) : Nat := (r.byComponent.flatMap Prod.snd).length

end SpecRegistry

end ArticleExport
