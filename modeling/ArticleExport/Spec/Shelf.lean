import ArticleExport.Spec.Registry

/-!
# Registries side by side

Each registry keeps a table of specs for each of its components, and a spec is registered by changing
such a table in its place.  So registries are told apart by the tables that they hold and not only by
what stands in them: two that held the same table would both change.  A copy makes tables of its own.
-/

namespace ArticleExport

/-- A call that registers a spec. -/
inductive Registration where
  /-- Registers the spec in any case. -/
  | register (s : Spec)
  /-- Registers the spec unless there is one under its name. -/
  | registerDefault (s : Spec)
deriving DecidableEq

namespace Registration

/-- The spec that is to be registered. -/
def spec : Registration → Spec
  | .register s | .registerDefault s => s

/-- What a call makes of a registry. -/
def applyTo (r : SpecRegistry) : Registration → SpecRegistry
  | .register s => r.register s
  | .registerDefault s => r.registerDefault s

end Registration

/-- What is done to registries that stand side by side. -/
inductive ShelfOp where
  /-- A call on the registry in a place. -/
  | call (i : Nat) (c : Registration)
  /-- A copy of the registry in a place; it comes to stand at the end. -/
  | copy (i : Nat)
deriving DecidableEq

/-- Registries side by side.  A registry holds the numbers of its components' tables. -/
structure SpecShelf where
  /-- All tables that were ever made. -/
  tables : List (Table Spec)
  /-- For each registry, the number of the table of each of its components. -/
  registries : List (Table Nat)

namespace SpecShelf

/-- One registry, without specs. -/
def start : SpecShelf := ⟨[], [[]]⟩

/-- The table of a number. -/
def tableAt (shelf : SpecShelf) (number : Nat) : Table Spec := (shelf.tables[number]?).getD []

/-- What stands in a registry. -/
def view (shelf : SpecShelf) (held : Table Nat) : SpecRegistry :=
  ⟨held.map fun e => (e.1, shelf.tableAt e.2)⟩

/-- What stands in the registries. -/
def views (shelf : SpecShelf) : List SpecRegistry := shelf.registries.map shelf.view

/-- Registers a spec in the registry in a place, which holds the tables `held`: in the table of its
component, or in a new one where the component has none. -/
def register (shelf : SpecShelf) (i : Nat) (held : Table Nat) (s : Spec) : SpecShelf :=
  match Table.get? s.component held with
  | some number => { shelf with tables := shelf.tables.modify number (Table.set s.name s) }
  | none =>
    { tables := shelf.tables ++ [[(s.name, s)]]
      registries := shelf.registries.set i (Table.set s.component shelf.tables.length held) }

/-- A call on the registry in a place. -/
def call (shelf : SpecShelf) (i : Nat) (held : Table Nat) : Registration → SpecShelf
  | .register s => shelf.register i held s
  | .registerDefault s =>
    if (shelf.view held).has s.component s.name then shelf else shelf.register i held s

/-- Names with the numbers from `first` on, in order. -/
def numbered (first : Nat) : List Text → Table Nat
  | [] => []
  | name :: names => (name, first) :: numbered (first + 1) names

/-- Copies a registry that holds the tables `held`, each of them into a new one. -/
def copy (shelf : SpecShelf) (held : Table Nat) : SpecShelf where
  tables := shelf.tables ++ held.map fun e => shelf.tableAt e.2
  registries := shelf.registries ++ [numbered shelf.tables.length held.keys]

/-- The registries after something was done to one of them; in a place without a registry there is
nothing to do. -/
def apply (shelf : SpecShelf) : ShelfOp → SpecShelf
  | .call i c =>
    match shelf.registries[i]? with
    | some held => shelf.call i held c
    | none => shelf
  | .copy i =>
    match shelf.registries[i]? with
    | some held => shelf.copy held
    | none => shelf

/-- The registries after one thing after another was done. -/
def run (shelf : SpecShelf) (ops : List ShelfOp) : SpecShelf := ops.foldl apply shelf

end SpecShelf

end ArticleExport
