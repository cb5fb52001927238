import ArticleExport.Article.Mapping
import ArticleExport.Failure
import ArticleExport.Number.Whole

/-!
# Documents

A document has to be a JSON object with something in it.  It comes as a value of the host, which may hold
what JSON does not have: values of other kinds, values that contain themselves, and names that are no
texts.  Whole numbers with too many digits are not written either, be they values or names.
-/

namespace ArticleExport

/-- A value of the host. -/
inductive HostValue where
  /-- The null value. -/
  | null
  /-- A truth value. -/
  | bool (b : Bool)
  /-- A whole number. -/
  | int (n : Int)
  /-- A floating-point number. -/
  | float (x : Float)
  /-- A text. -/
  | str (t : Text)
  /-- A list. -/
  | arr (items : List HostValue)
  /-- A mapping. -/
  | obj (entries : List (Key × HostValue))
  /-- A value of a kind that JSON does not have, by the name of its kind. -/
  | foreign (kind : Text)
  /-- A value that contains itself. -/
  | cycle

namespace HostValue

instance : Inhabited HostValue := ⟨null⟩

/-- The wording of a value of a kind that JSON does not have. -/
def notSerializable (kind : Text) : Text :=
  ("Object of type " : Text) ++ kind ++ (" is not JSON serializable" : Text)

/-- The wording of a whole number with too many digits. -/
def oversizedNumber : Text :=
  "Exceeds the limit (4300 digits) for integer string conversion; use sys.set_int_max_str_digits() to increase the limit"

/-- A whole number that is to be written, or that it has too many digits. -/
def writtenWhole (n : Int) : Except (DocumentFlaw × Text) Int :=
  if hasFewDigits n.natAbs then .ok n else .error (.oversizedNumber, oversizedNumber)

/-- The name that a key is written as. -/
def writtenName : Key → Except (DocumentFlaw × Text) Text
  | .int n => (writtenWhole n).map Text.ofInt
  | k => .ok k.spelling

/-- The mapping of entries in which a key may stand more than once. -/
def ofPairs (pairs : List (Key × HostValue)) : HostValue := .obj (KeyTable.ofEntries pairs)

mutual

/-- The value as JSON, or what keeps it from being JSON and how that is worded. -/
def toJson : HostValue → Except (DocumentFlaw × Text) Json
  | null => .ok .null
  | bool b => .ok (.bool b)
  | int n => (writtenWhole n).map Json.int
  | float x => .ok (.float x)
  | str t => .ok (.str t)
  | arr items => (toItems items).map Json.arr
  | obj entries => (toEntries entries).map fun es => .obj (Table.ofEntries es)
  | foreign kind => .error (.notSerializable, notSerializable kind)
  | cycle => .error (.circular, "Circular reference detected")

/-- The items as JSON. -/
def toItems : List HostValue → Except (DocumentFlaw × Text) (List Json)
  | [] => .ok []
  | v :: vs => do
    let v ← toJson v
    return v :: (← toItems vs)

/-- The entries as JSON. -/
def toEntries : List (Key × HostValue) → Except (DocumentFlaw × Text) (List (Text × Json))
  | [] => .ok []
  | (k, v) :: es => do
    let name ← writtenName k
    let v ← toJson v
    return (name, v) :: (← toEntries es)

end

/-- A name that is a text is written as it is. -/
theorem toEntries_text_cons (name : Text) (v : HostValue) (es : List (Key × HostValue)) :
    toEntries ((.text name, v) :: es) =
      v.toJson.bind fun w => (toEntries es).bind fun ws => .ok ((name, w) :: ws) :=
  rfl

mutual

/-- A JSON value as a value of the host. -/
def ofJson : Json → HostValue
  | .null => null
  | .bool b => bool b
  | .int n => int n
  | .float x => float x
  | .str t => str t
  | .arr items => arr (ofItems items)
  | .obj entries => obj (ofEntries entries)
  | .keyed entries => obj (ofKeyed entries)

/-- JSON items as values of the host. -/
def ofItems : List Json → List HostValue
  | [] => []
  | v :: vs => ofJson v :: ofItems vs

/-- JSON entries as entries of the host. -/
def ofEntries : List (Text × Json) → List (Key × HostValue)
  | [] => []
  | (k, v) :: es => (.text k, ofJson v) :: ofEntries es

/-- The entries of a mapping as entries of the host. -/
def ofKeyed : List (Key × Json) → List (Key × HostValue)
  | [] => []
  | (k, v) :: es => (k, ofJson v) :: ofKeyed es

end

end HostValue

/-- The error of a document with nothing in it. -/
def emptyDocument : ExportError :=
  .validation "The article JSON is empty and cannot be published" none

/-- The document that a value of the host is. -/
def validateDocument (v : HostValue) : Except ExportError (Table Json) :=
  match v.toJson with
  | .error (flaw, wording) =>
    .error (.validation
      (("The article JSON is invalid and cannot be published: " : Text) ++ wording) (some flaw))
  | .ok (.obj (entry :: entries)) => .ok (entry :: entries)
  | .ok _ => .error emptyDocument

end ArticleExport
