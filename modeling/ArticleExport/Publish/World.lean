import ArticleExport.Article.Content
import ArticleExport.Publish.Api
import ArticleExport.Publish.State
import ArticleExport.Publish.Workspace

/-!
# The surroundings of a push

A push reads the settings and the content of the host, keeps state, writes files into a directory for
temporary files, calls the publishing service, and asks the host whether to skip an item.  All of it is one
value, the world, which a run changes; what a run has changed before a failure stays changed.
-/

namespace ArticleExport

/-- The surroundings of a push, with the service in a state of type `σ`. -/
structure World (σ : Type) where
  /-- The settings. -/
  settings : Settings
  /-- The content of the host. -/
  contents : ContentStore
  /-- What is known about the pushes. -/
  state : StateStore
  /-- The publishing service, and the way to it. -/
  service : σ
  /-- The workspaces in the directory for temporary files, by name. -/
  temporary : Table Workspace
  /-- The items for which the host was asked whether to skip them. -/
  asked : List Key
  /-- The items that were given to the scheduler. -/
  queued : List Text

/-- A run in the world, with a result or a failure. -/
abbrev Run (σ : Type) := ExceptT Failure (StateM (World σ))

namespace Run

variable {σ α : Type}

/-- A step that changes the publish state. -/
def onState (f : StateStore → StateStore) : Run σ Unit :=
  modify fun w => { w with state := f w.state }

/-- Fails where the publish state cannot be kept for a content item. -/
def reach (id : Text) : Run σ Unit := do
  match (← get).state.nameFault? [id] with
  | some f => throw (.fault f)
  | none => pure ⟨⟩

/-- A call of the publishing service. -/
def call (f : ApiCall σ α) : Run σ α :=
  ExceptT.mk fun w => ((f w.service).2, { w with service := (f w.service).1 })

/-- The outcome of a computation that needs no world. -/
def ofExcept : Except Failure α → Run σ α
  | .ok a => pure a
  | .error f => throw f

/-- The outcome of a computation that needs no world and ends with no error of its own. -/
def ofFault (r : Except Fault α) : Run σ α := ofExcept (r.mapError .fault)

/-- Fails where there is a failure. -/
def failing : Option Failure → Run σ Unit
  | none => pure ⟨⟩
  | some f => throw f

/-- A run after which a step is taken, whatever came of the run. -/
def andFinally (r : Run σ α) (step : World σ → World σ) : Run σ α :=
  ExceptT.mk fun w => ((r w).1, step (r w).2)

/-- A run whose failure is handled, starting from the world that it left. -/
def handle (r : Run σ α) (handler : Failure → Run σ α) : Run σ α :=
  ExceptT.mk fun w =>
    match r w with
    | (.ok a, w) => (.ok a, w)
    | (.error f, w) => handler f w

end Run

namespace Workspace

/-- How the name of the directory for a content item begins. -/
def nameStart (id : Text) : Text := ("article-" : Text) ++ id ++ ("-" : Text)

/-- A name for a directory that none of the names is. -/
def freshName (id : Text) (names : List Text) : Text :=
  let candidates := (List.range (names.length + 1)).map fun n => nameStart id ++ Text.ofNat n
  (candidates.find? fun c => !names.contains c).getD (nameStart id)

end Workspace

end ArticleExport
