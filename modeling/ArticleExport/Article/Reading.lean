import ArticleExport.Article.Content
import ArticleExport.Json.Access
import ArticleExport.Number.Binary

/-!
# Content items from JSON

How a host hands over what it has: dates as lists of numbers, and items as objects in which parts may be
missing.
-/

namespace ArticleExport

/-- The numbers of a part of a date, however large the calendar allows them to be. -/
def Moment.partBound : Int := Nat.pow 2 31

/-- A part of a date. -/
def Moment.partOf : Json → Except Fault Int
  | .bool b => .ok (if b then 1 else 0)
  | .int n => if -partBound ≤ n ∧ n < partBound then .ok n else .error .oversizedNumber
  | v => .error (.badDatePart v.kindName)

/-- The whole microseconds of a number of seconds; a half goes to the even neighbour. -/
def Moment.microsecondsOf (seconds : Float) : Option Int := do
  let whole ← truncate? seconds
  let fine := 1000000.0 * (seconds - Float.ofInt whole)
  let part ← truncate? fine
  let total := whole * 1000000 + part
  let left := fine - Float.ofInt part
  let step : Int := if left < 0.0 then -1 else 1
  if left.abs > 0.5 ∨ (left.abs == 0.5 ∧ total % 2 = 1) then return total + step else return total

/-- The distance from universal time, in microseconds, of a number of seconds; spans beyond a thousand
million days cannot be formed. -/
def Moment.offsetOf (v : Json) : Except Fault (Option Int) := do
  let found ← match v with
    | .null => pure none
    | .bool b => pure (some (if b then 1000000 else 0))
    | .int n => pure (some (n * 1000000))
    | .float x =>
      match microsecondsOf x with
      | some n => pure (some n)
      | none => throw .oversizedNumber
    | v => throw (.badDatePart v.kindName)
  match found with
  | some n => if (n / (86400 * 1000000)).natAbs ≤ 999999999 then return some n else throw .oversizedNumber
  | none => return none

/-- The date of a list: year, month, day, hour, minute, second, microsecond, and the seconds from universal
time.  Anything but a list is no date. -/
def Moment.ofJson (v : Json) : Except Fault (Option Moment) :=
  match v with
  | .arr _ => do
    let offset ← offsetOf (v.item 7)
    if 86400 * 1000000 ≤ (offset.getD 0).natAbs then throw .badDate
    let number (i : Nat) : Except Fault Int := partOf (v.item i)
    let parts := [← number 0, ← number 1, ← number 2, ← number 3, ← number 4, ← number 5, ← number 6]
    let part (i : Nat) : Nat := (parts.getD i 0).toNat
    let m : Moment := ⟨part 0, part 1, part 2, part 3, part 4, part 5, part 6, offset⟩
    if m.IsValid ∧ parts.all fun n => 0 ≤ n then return some m else throw .badDate
  | _ => .ok none

/-- A value that the host may leave out, with another one in its place then. -/
def Json.orElse (v other : Json) : Json := if v.isNull then other else v

/-- The identity and dates of an article. -/
def ArticleInfo.ofJson (v : Json) : Except Fault ArticleInfo := do
  return ⟨(v.field "identifier").orElse (.str []), (v.field "title").orElse (.str []),
    (v.field "language").orElse "en", ← Moment.ofJson (v.field "date_created"),
    ← Moment.ofJson (v.field "date_modified"), ← Moment.ofJson (v.field "date_published")⟩

/-- The sections of a list; a text stands for the list of its characters. -/
def sectionsOf : Json → List Key
  | .str t => t.map fun c => .text [c]
  | v => v.itemsOf.map Json.keyOf

namespace Content

/-- An item with the parts that an object has. -/
def amend (c : Content) (v : Json) : Except Fault Content := do
  let newer {α : Type} (name : Text) (old : α) (read : Json → α) : α :=
    ((v.field? name).map read).getD old
  let date (name : Text) (old : Option Moment) : Except Fault (Option Moment) :=
    match v.field? name with
    | some x => Moment.ofJson x
    | none => .ok old
  return {
    id := newer "id" c.id Json.keyOf
    title := newer "title" c.title fun v => v
    html := newer "html" c.html Json.textOf
    sections := newer "sections" c.sections sectionsOf
    terms := newer "term_ids" c.terms fun x => x
    notes := newer "meta" c.notes Json.entriesOf
    custom := newer "custom_metadata" c.custom Json.itemsOf
    language := newer "language" c.language fun v => v
    created := ← date "date_created" c.created
    modified := ← date "date_modified" c.modified
    published := ← date "date_published" c.published }

/-- The item of an object; what is null counts as missing. -/
def ofJson (v : Json) : Except Fault Content :=
  (blank (.text [])).amend (.obj (v.entriesOf.filter fun e => !e.2.isNull))

end Content

end ArticleExport
