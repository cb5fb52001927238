import ArticleExport.Json.Printer

/-!
# Values in messages

How a value is shown inside of a message: a text as it is, and everything else as the host writes it, with
quotes around the texts in lists and objects.
-/

namespace ArticleExport.Json

mutual

/-- A value inside of a list or object. -/
def shownInside : Json → Text
  | null => "None"
  | bool b => if b then "True" else "False"
  | str t => t.quoted
  | arr items => ("[" : Text) ++ Text.join ", " (shownItems items) ++ ("]" : Text)
  | obj entries => ("\x7b" : Text) ++ Text.join ", " (shownEntries entries) ++ ("\x7d" : Text)
  | keyed entries => ("\x7b" : Text) ++ Text.join ", " (shownKeyed entries) ++ ("\x7d" : Text)
  | int n => Text.ofInt n
  | float x => DecimalNotation.message.write x

/-- The items of a list. -/
def shownItems : List Json → List Text
  | [] => []
  | v :: vs => shownInside v :: shownItems vs

/-- The entries of an object. -/
def shownEntries : List (Text × Json) → List Text
  | [] => []
  | (k, v) :: es => (k.quoted ++ (": " : Text) ++ shownInside v) :: shownEntries es

/-- The entries of a mapping. -/
def shownKeyed : List (Key × Json) → List Text
  | [] => []
  | (k, v) :: es => (k.quoted ++ (": " : Text) ++ shownInside v) :: shownKeyed es

end

/-- A value in a message. -/
def shown : Json → Text
  | str t => t
  | v => shownInside v

end ArticleExport.Json
