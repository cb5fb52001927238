import ArticleExport.Spec.Pruning
import ArticleExport.Spec.Token
import ArticleExport.Theme.Basic

/-!
# Substitution

A template is a JSON value whose texts may be placeholders.  Resolving it puts the value of its key in
the place of each placeholder, as it is, and drops whatever comes out null.

An object may carry a list of conditional variants.  A variant holds fields that count under its
conditions.  It comes out as the resolved object with the variant's resolved fields set over it and
the conditions as they were written; a variant whose fields all come out empty is dropped.
-/

namespace ArticleExport.Spec

/-- The name of the list of variants. -/
def conditionalKey : Text := "conditional"

/-- The name of the conditions of a variant. -/
def conditionsKey : Text := "conditions"

/-- A variant put together: the object, the variant's fields over it, and its conditions. -/
def overlay (base fields variant : Table Json) : Table Json :=
  let merged := Table.update base fields
  match Table.get? conditionsKey variant with
  | some conditions => Table.set conditionsKey conditions merged
  | none => merged

mutual

/-- The value with every placeholder resolved. -/
def resolve (lookup : Text → Json) : Json → Json
  | .str t =>
    match token? t with
    | some key => lookup key
    | none => .str t
  | .arr items => .arr (resolveItems lookup items)
  | .obj entries =>
    let base := resolveBase lookup entries
    match resolveConditional lookup base entries with
    | [] => .obj base
    | variants => .obj (Table.set conditionalKey (.arr variants) base)
  | v => v

/-- The items resolved, nulls dropped. -/
def resolveItems (lookup : Text → Json) : List Json → List Json
  | [] => []
  | v :: vs =>
    if (resolve lookup v).isNull then resolveItems lookup vs
    else resolve lookup v :: resolveItems lookup vs

/-- The entries resolved, nulls dropped, without the list of variants. -/
def resolveBase (lookup : Text → Json) : List (Text × Json) → List (Text × Json)
  | [] => []
  | (k, .arr items) :: es =>
    if k = conditionalKey then resolveBase lookup es
    else (k, .arr (resolveItems lookup items)) :: resolveBase lookup es
  | (k, v) :: es =>
    if (resolve lookup v).isNull then resolveBase lookup es
    else (k, resolve lookup v) :: resolveBase lookup es

/-- The variants of an object over its resolved entries. -/
def resolveConditional (lookup : Text → Json) (base : List (Text × Json)) :
    List (Text × Json) → List Json
  | [] => []
  | (k, .arr items) :: es =>
    if k = conditionalKey then resolveVariants lookup base items
    else resolveConditional lookup base es
  | _ :: es => resolveConditional lookup base es

/-- The variants that have a field with something in it, each over the resolved entries. -/
def resolveVariants (lookup : Text → Json) (base : List (Text × Json)) : List Json → List Json
  | [] => []
  | .obj variant :: vs =>
    match Json.pruneEntries (resolveFields lookup variant) with
    | [] => resolveVariants lookup base vs
    | fields => .obj (overlay base fields variant) :: resolveVariants lookup base vs
  | _ :: vs => resolveVariants lookup base vs

/-- The fields of a variant resolved, its conditions left out. -/
def resolveFields (lookup : Text → Json) : List (Text × Json) → List (Text × Json)
  | [] => []
  | (k, v) :: es =>
    if k = conditionsKey then resolveFields lookup es
    else (k, resolve lookup v) :: resolveFields lookup es

end

/-- The value of a placeholder: the given one, else the theme's. -/
def source (values : Table Json) (theme : Theme) (key : Text) : Json :=
  match Table.get? key values with
  | some v => v
  | none => theme.value key

/-- Values under their keys without marks; of two spellings of a key the later one counts. -/
def unmarked (values : Table Json) : Table Json :=
  Table.ofEntries (values.map fun e => (stripMarks e.1, e.2))

end Spec

/-- A template that belongs to a component. -/
structure Spec where
  /-- The name of the component. -/
  component : Text
  /-- The name of the spec within the component. -/
  name : Text
  /-- The name that people see. -/
  label : Text
  /-- The template. -/
  template : Json
deriving DecidableEq

namespace Spec

/-- The template that counts under a theme: the theme's own one for this spec, else the spec's. -/
def effective (s : Spec) (theme : Theme) : Except Fault Json := do
  return ((← theme.template? s.component s.name).getD s.template)

/-- The template with its placeholders resolved by the values and the theme. -/
def substitute (s : Spec) (values : Table Json) (theme : Theme) : Except Fault Json := do
  return resolve (source (unmarked values) theme) (← s.effective theme)

/-- The spec in one line, for messages. -/
def describe (s : Spec) : Text :=
  ("ComponentSpec(" : Text) ++ s.component.quoted ++ (", " : Text) ++ s.name.quoted ++ (")" : Text)

end Spec

end ArticleExport
