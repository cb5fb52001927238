import ArticleExport.Failure
import ArticleExport.Json.Basic

/-!
# The ledger of a run

What the components of an article have in common is entered in a ledger: text styles, layouts and
component styles by name, bundles, and the content that no component could show.  The first entry under a
name counts and later ones are ignored, so ledgers merge in order.
-/

namespace ArticleExport

namespace Table

variable {α : Type u}

/-- The entries of both tables; where both have a name, the first one's value counts. -/
def merge (s t : Table α) : Table α := t.foldl (fun acc e => setIfAbsent e.1 e.2 acc) s

@[simp] theorem merge_nil (s : Table α) : merge s [] = s := rfl

end Table

/-- Content that no component can show. -/
structure ComponentIssue where
  /-- The name of the content. -/
  component : Text
  /-- The wording, where there is one of its own. -/
  wording : Option Text
deriving DecidableEq, Repr

/-- An issue as an error. -/
def ComponentIssue.toError (i : ComponentIssue) : ExportError := .component i.component i.wording

/-- Addresses with new ones behind them, each once; an empty address is none. -/
def addBundle (bundles : List Text) (address : Text) : List Text :=
  if address.isEmpty || bundles.contains address then bundles else bundles ++ [address]

/-- What the components of a run have entered. -/
structure Ledger where
  /-- The text styles. -/
  textStyles : Table Json
  /-- The layouts. -/
  layouts : Table Json
  /-- The styles of components. -/
  componentStyles : Table Json
  /-- The addresses of bundled files. -/
  bundles : List Text
  /-- The content that no component could show. -/
  issues : List ComponentIssue
deriving DecidableEq

namespace Ledger

/-- The ledger without entries. -/
def empty : Ledger := ⟨[], [], [], [], []⟩

instance : Inhabited Ledger := ⟨empty⟩

/-- The entries of one ledger, and those of another one behind them. -/
def merge (a b : Ledger) : Ledger where
  textStyles := a.textStyles.merge b.textStyles
  layouts := a.layouts.merge b.layouts
  componentStyles := a.componentStyles.merge b.componentStyles
  bundles := b.bundles.foldl addBundle a.bundles
  issues := a.issues ++ b.issues

@[simp] theorem merge_empty (a : Ledger) : a.merge empty = a := by
  simp [merge, empty]

/-- The ledger with one text style. -/
def ofTextStyle (name : Text) (style : Json) : Ledger := { empty with textStyles := [(name, style)] }

/-- The ledger with one layout. -/
def ofLayout (name : Text) (layout : Json) : Ledger := { empty with layouts := [(name, layout)] }

/-- The ledger with one component style. -/
def ofComponentStyle (name : Text) (style : Json) : Ledger :=
  { empty with componentStyles := [(name, style)] }

/-- The ledger with one bundle. -/
def ofBundle (address : Text) : Ledger := { empty with bundles := addBundle [] address }

/-- The ledger with one issue. -/
def ofIssue (component : Text) : Ledger := { empty with issues := [⟨component, none⟩] }

end Ledger

/-- The outcome of work for an article: what it entered, and its result or what ended it.  What was
entered before a failure stays. -/
structure Work (α : Type u) where
  /-- What was entered. -/
  ledger : Ledger
  /-- The result. -/
  result : Except Failure α

namespace Work

/-- A result without entries. -/
def done {α : Type u} (a : α) : Work α := ⟨.empty, .ok a⟩

/-- A failure without entries. -/
def failed {α : Type u} (f : Failure) : Work α := ⟨.empty, .error f⟩

/-- Entries without a result. -/
def enter (l : Ledger) : Work PUnit := ⟨l, .ok ⟨⟩⟩

/-- Work that goes on with the result of other work. -/
def andThen {α : Type u} {β : Type v} (w : Work α) (f : α → Work β) : Work β :=
  match w.result with
  | .ok a => ⟨w.ledger.merge (f a).ledger, (f a).result⟩
  | .error e => ⟨w.ledger, .error e⟩

instance : Monad Work where
  pure := done
  bind := andThen

/-- An outcome without entries. -/
def ofExcept {α : Type u} : Except Failure α → Work α
  | .ok a => done a
  | .error e => failed e

end Work

end ArticleExport
