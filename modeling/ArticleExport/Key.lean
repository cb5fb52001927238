import ArticleExport.Number.Decimal
import ArticleExport.Table
import ArticleExport.Text.Quoted

/-!
# Keys

The keys of a host's mappings are texts and the other plain values.  Numbers of one value are one key,
however they are written, and the truth values are the numbers zero and one.  A key table keeps the
first spelling of a key and its last value, as `Table` does for names.
-/

namespace ArticleExport

/-- A key of a mapping. -/
inductive Key where
  /-- The null value. -/
  | null
  /-- A truth value. -/
  | bool (b : Bool)
  /-- A whole number. -/
  | int (n : Int)
  /-- A floating-point number. -/
  | float (x : Float)
  /-- A text. -/
  | text (t : Text)
deriving DecidableEq, Inhabited, Repr

namespace Key

instance : Coe Text Key := ⟨text⟩
instance : Coe String Key := ⟨fun s => text (Text.ofString s)⟩

/-- The spelling that stands for all spellings of a key. -/
def canonical : Key → Key
  | bool b => int (if b then 1 else 0)
  | float x => ((integral? x).map int).getD (float x)
  | k => k

@[simp] theorem canonical_text (t : Text) : canonical (text t) = text t := rfl

/-- Only a text is the same key as a text. -/
theorem canonical_eq_text {k : Key} {t : Text} (h : canonical k = text t) : k = text t := by
  cases k with
  | text s => exact h
  | float x =>
    simp only [canonical] at h
    cases hx : integral? x <;> simp [hx] at h
  | _ => simp [canonical] at h

/-- The text that a key is, where it is one. -/
def text? : Key → Option Text
  | text t => some t
  | _ => none

/-- A key as a name of a JSON object. -/
def spelling : Key → Text
  | null => "null"
  | bool b => if b then "true" else "false"
  | int n => Text.ofInt n
  | float x => DecimalNotation.document.write x
  | text t => t

/-- A key in a message. -/
def shown : Key → Text
  | null => "None"
  | bool b => if b then "True" else "False"
  | int n => Text.ofInt n
  | float x => DecimalNotation.message.write x
  | text t => t

/-- A key inside of a value in a message. -/
def quoted : Key → Text
  | text t => t.quoted
  | k => k.shown

/-- The name of the kind of a key, for messages. -/
def kindName : Key → Text
  | null => "NoneType"
  | bool _ => "bool"
  | int _ => "int"
  | float _ => "float"
  | text _ => "str"

/-- Whether two keys have an order: texts have one, and so have numbers. -/
def comparable : Key → Key → Bool
  | text _, text _ => true
  | text _, _ | _, text _ | null, _ | _, null => false
  | _, _ => true

/-- Whether a key is at most another one; numbers go by their values, texts by their code points. -/
def le (a b : Key) : Bool :=
  match a.canonical, b.canonical with
  | int m, int n => decide (m ≤ n)
  | int m, float y => intLeFloat m y
  | float x, int n => floatLeInt x n
  | float x, float y => decide (x ≤ y)
  | text s, text t => Text.le s t
  | _, _ => true

/-- Two keys among others that have no order, the later one first. -/
def unordered? : List Key → Option (Key × Key)
  | a :: b :: keys => if comparable a b then unordered? (b :: keys) else some (b, a)
  | _ => none

end Key

/-- Values by key, in the order in which the keys were first set. -/
abbrev KeyTable (α : Type u) := List (Key × α)

namespace KeyTable

variable {α : Type u}

/-- The value of a key. -/
def get? (key : Key) : KeyTable α → Option α
  | [] => none
  | (k, v) :: t => if k.canonical = key.canonical then some v else get? key t

/-- Gives a key a value: in its place and spelling where it has one, at the end otherwise. -/
def set (key : Key) (value : α) : KeyTable α → KeyTable α
  | [] => [(key, value)]
  | (k, v) :: t =>
    if k.canonical = key.canonical then (k, value) :: t else (k, v) :: set key value t

/-- Takes a key out. -/
def erase (key : Key) (t : KeyTable α) : KeyTable α :=
  t.filter fun entry => entry.1.canonical ≠ key.canonical

/-- Sets every entry of `new`, in order. -/
def update (t new : KeyTable α) : KeyTable α := new.foldl (fun acc e => set e.1 e.2 acc) t

/-- The table of a list of entries in which a key may stand more than once: first spelling, last
value. -/
def ofEntries (entries : List (Key × α)) : KeyTable α := update [] entries

/-- The entries of a table of names. -/
def ofTable (t : Table α) : KeyTable α := t.map fun e => (.text e.1, e.2)

/-- The entries as a table of names, where all keys are texts. -/
def toTable? (t : KeyTable α) : Option (Table α) :=
  t.mapM fun e => e.1.text?.map fun name => (name, e.2)

@[simp] theorem get?_nil (key : Key) : get? key ([] : KeyTable α) = none := rfl

theorem get?_cons (key k : Key) (v : α) (t : KeyTable α) :
    get? key ((k, v) :: t) = if k.canonical = key.canonical then some v else get? key t := rfl

/-- Setting a key shows at that key, in any spelling, and nowhere else. -/
theorem get?_set (key other : Key) (value : α) (t : KeyTable α) :
    get? other (set key value t) =
      if key.canonical = other.canonical then some value else get? other t := by
  induction t with
  | nil => simp [set, get?]
  | cons e t ih =>
    obtain ⟨k, v⟩ := e
    simp only [set]
    by_cases hk : k.canonical = key.canonical
    · by_cases h : key.canonical = other.canonical <;> simp [get?, hk, h]
    · simp only [hk, if_false, get?_cons, ih]
      by_cases h : k.canonical = other.canonical
      · have : key.canonical ≠ other.canonical := fun hn => hk (h.trans hn.symm)
        simp [h, this]
      · simp [h]

/-- A key that is taken out is gone in every spelling, and the others stay. -/
theorem get?_erase (key other : Key) (t : KeyTable α) :
    get? other (erase key t) =
      if key.canonical = other.canonical then none else get? other t := by
  induction t with
  | nil => simp [erase]
  | cons e t ih =>
    obtain ⟨k, v⟩ := e
    by_cases hk : k.canonical = key.canonical
    · have : erase key ((k, v) :: t) = erase key t := by simp [erase, hk]
      rw [this, ih, get?_cons]
      by_cases h : key.canonical = other.canonical <;> simp [h, hk]
    · have : erase key ((k, v) :: t) = (k, v) :: erase key t := by simp [erase, hk]
      rw [this, get?_cons, get?_cons, ih]
      by_cases h : k.canonical = other.canonical
      · have : key.canonical ≠ other.canonical := fun hn => hk (h.trans hn.symm)
        simp [h, this]
      · simp [h]

end KeyTable

end ArticleExport
