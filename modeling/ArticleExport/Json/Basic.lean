import ArticleExport.Key

/-!
# JSON values

The values of themes, templates, documents and answers.  Whole numbers and floating-point numbers are
different values, and an object keeps the order of its names.  Besides the objects of JSON there are the
mappings of a host whose keys are not all texts; written as JSON they are objects too.
-/

namespace ArticleExport

/-- A JSON value. -/
inductive Json where
  /-- The null value. -/
  | null
  /-- A truth value. -/
  | bool (b : Bool)
  /-- A whole number of any size. -/
  | int (n : Int)
  /-- A floating-point number. -/
  | float (x : Float)
  /-- A text. -/
  | str (t : Text)
  /-- A list. -/
  | arr (items : List Json)
  /-- An object, its names in order. -/
  | obj (entries : List (Text × Json))
  /-- A mapping whose keys are not all texts, in order. -/
  | keyed (entries : List (Key × Json))
deriving Inhabited

namespace Json

instance : Coe Text Json := ⟨str⟩
instance : Coe String Json := ⟨fun s => str (Text.ofString s)⟩

mutual

/-- Whether two values are the same, the order of names included. -/
def same : Json → Json → Bool
  | null, null => true
  | bool a, bool b => a == b
  | int a, int b => a == b
  | float a, float b => decide (a = b)
  | str a, str b => a == b
  | arr a, arr b => sameItems a b
  | obj a, obj b => sameEntries a b
  | keyed a, keyed b => sameKeyed a b
  | _, _ => false
termination_by structural v => v

/-- Whether two lists hold the same values. -/
def sameItems : List Json → List Json → Bool
  | [], [] => true
  | a :: s, b :: t => same a b && sameItems s t
  | _, _ => false
termination_by structural v => v

/-- Whether two objects hold the same entries in the same order. -/
def sameEntries : List (Text × Json) → List (Text × Json) → Bool
  | [], [] => true
  | (k, a) :: s, (l, b) :: t => k == l && same a b && sameEntries s t
  | _, _ => false
termination_by structural v => v

/-- Whether two mappings hold the same entries in the same order and spelling. -/
def sameKeyed : List (Key × Json) → List (Key × Json) → Bool
  | [], [] => true
  | (k, a) :: s, (l, b) :: t => k == l && same a b && sameKeyed s t
  | _, _ => false
termination_by structural v => v

end

mutual

theorem eq_of_same {a b : Json} (h : same a b = true) : a = b := by
  cases a <;> cases b <;> simp [same] at h <;> try simp [h]
  · exact eq_of_sameItems h
  · exact eq_of_sameEntries h
  · exact eq_of_sameKeyed h
termination_by sizeOf a

theorem eq_of_sameItems {s t : List Json} (h : sameItems s t = true) : s = t := by
  match s, t with
  | [], [] => rfl
  | a :: s, b :: t =>
    simp only [sameItems, Bool.and_eq_true] at h
    rw [eq_of_same h.1, eq_of_sameItems h.2]
  | [], _ :: _ => simp [sameItems] at h
  | _ :: _, [] => simp [sameItems] at h
termination_by sizeOf s

theorem eq_of_sameEntries {s t : List (Text × Json)} (h : sameEntries s t = true) : s = t := by
  match s, t with
  | [], [] => rfl
  | (k, a) :: s, (l, b) :: t =>
    simp only [sameEntries, Bool.and_eq_true, beq_iff_eq] at h
    rw [h.1.1, eq_of_same h.1.2, eq_of_sameEntries h.2]
  | [], _ :: _ => simp [sameEntries] at h
  | _ :: _, [] => simp [sameEntries] at h
termination_by sizeOf s

theorem eq_of_sameKeyed {s t : List (Key × Json)} (h : sameKeyed s t = true) : s = t := by
  match s, t with
  | [], [] => rfl
  | (k, a) :: s, (l, b) :: t =>
    simp only [sameKeyed, Bool.and_eq_true, beq_iff_eq] at h
    rw [h.1.1, eq_of_same h.1.2, eq_of_sameKeyed h.2]
  | [], _ :: _ => simp [sameKeyed] at h
  | _ :: _, [] => simp [sameKeyed] at h
termination_by sizeOf s

end

mutual

theorem same_self : (a : Json) → same a a = true
  | null | bool _ | int _ | float _ | str _ => by simp [same]
  | arr items => by simp [same, sameItems_self items]
  | obj entries => by simp [same, sameEntries_self entries]
  | keyed entries => by simp [same, sameKeyed_self entries]

theorem sameItems_self : (s : List Json) → sameItems s s = true
  | [] => rfl
  | a :: s => by simp [sameItems, same_self a, sameItems_self s]

theorem sameEntries_self : (s : List (Text × Json)) → sameEntries s s = true
  | [] => rfl
  | (_, a) :: s => by simp [sameEntries, same_self a, sameEntries_self s]

theorem sameKeyed_self : (s : List (Key × Json)) → sameKeyed s s = true
  | [] => rfl
  | (_, a) :: s => by simp [sameKeyed, same_self a, sameKeyed_self s]

end

instance : DecidableEq Json := fun a b =>
  if h : same a b = true then isTrue (eq_of_same h)
  else isFalse fun e => h (e ▸ same_self a)

/-- Whether a value is null. -/
def isNull : Json → Bool
  | null => true
  | _ => false

/-- Whether a value is null, or a text, list or object with nothing in it. -/
def isEmpty : Json → Bool
  | null => true
  | str t => t.isEmpty
  | arr items => items.isEmpty
  | obj entries => entries.isEmpty
  | keyed entries => entries.isEmpty
  | _ => false

/-- Whether a value counts as set: neither null, false, zero nor empty. -/
def isTruthy : Json → Bool
  | null => false
  | bool b => b
  | int n => n != 0
  | float x => !(x == 0.0)
  | str t => !t.isEmpty
  | arr items => !items.isEmpty
  | obj entries => !entries.isEmpty
  | keyed entries => !entries.isEmpty

/-- The entries of an object. -/
def entries? : Json → Option (Table Json)
  | obj entries => some entries
  | _ => none

/-- The value of a name in an object. -/
def field? (name : Text) : Json → Option Json
  | obj entries => Table.get? name entries
  | keyed entries => KeyTable.get? (.text name) entries
  | _ => none

/-- The key that a value is, where it is a plain one. -/
def key? : Json → Option Key
  | null => some .null
  | bool b => some (.bool b)
  | int n => some (.int n)
  | float x => some (.float x)
  | str t => some (.text t)
  | _ => none

/-- The name of the kind of a value, for messages. -/
def kindName : Json → Text
  | null => "NoneType"
  | bool _ => "bool"
  | int _ => "int"
  | float _ => "float"
  | str _ => "str"
  | arr _ => "list"
  | obj _ | keyed _ => "dict"

/-- A key as a value. -/
def ofKey : Key → Json
  | .null => null
  | .bool b => bool b
  | .int n => int n
  | .float x => float x
  | .text t => str t

/-- The entries of a value that is an object or a mapping. -/
def keyedEntries? : Json → Option (KeyTable Json)
  | obj entries => some (KeyTable.ofTable entries)
  | keyed entries => some entries
  | _ => none

/-- The value of a mapping: an object where all of its keys are texts. -/
def ofKeyed (entries : KeyTable Json) : Json :=
  match entries.toTable? with
  | some t => obj t
  | none => keyed entries

end Json

end ArticleExport
