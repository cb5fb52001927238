import ArticleExport.Json.Basic
import Mathlib.Tactic.Common

/-!
# Paths into values

A path leads from a value to a part of it, through the positions of lists and the keys of
objects.  What is said of all paths of a value is said of everything in it, at any depth.
-/

namespace ArticleExport

/-- In a list from which items are dropped, an item that is kept stands behind those kept before it. -/
theorem getElem?_filterMap {α β : Type} (f : α → Option β) {l : List α} {i : Nat} {a : α} {b : β}
    (ha : l[i]? = some a) (hb : f a = some b) :
    (l.filterMap f)[(l.take i).countP fun x => (f x).isSome]? = some b := by
  induction l generalizing i with
  | nil => cases ha
  | cons x l ih =>
      cases i with
      | zero =>
          obtain rfl : x = a := Option.some.inj ha
          rw [List.filterMap_cons_some hb]
          rfl
      | succ i =>
          have hrest := ih ha
          rw [List.take_succ_cons, List.countP_cons]
          cases hx : f x with
          | none =>
              rw [List.filterMap_cons_none hx]
              exact hrest
          | some y =>
              rw [List.filterMap_cons_some hx]
              exact hrest

/-- In a list all of which is counted, as many items are counted before a position as it says. -/
theorem countP_take_of_forall {α : Type} {p : α → Bool} {l : List α} (h : ∀ a ∈ l, p a = true) {i : Nat}
    {b : α} (hi : l[i]? = some b) : (l.take i).countP p = i := by
  obtain ⟨hbound, -⟩ := List.getElem?_eq_some_iff.mp hi
  rw [List.countP_eq_length.mpr fun a ha => h a (List.mem_of_mem_take ha), List.length_take]
  exact Nat.min_eq_left (Nat.le_of_lt hbound)

namespace Json

/-- A step from a value into a part of it. -/
inductive PathStep where
  /-- To the item at a position of a list. -/
  | item (i : Nat)
  /-- To the value of a key, which in an object is a name. -/
  | key (k : Key)
deriving DecidableEq

/-- The key of a step that leads to one. -/
def PathStep.key? : PathStep → Option Key
  | item _ => none
  | key k => some k

/-- Steps from a value into a part of it, from the outside inwards. -/
abbrev Path := List PathStep

/-- The keys of a path, with nothing in place of the positions. -/
def Path.keys (path : Path) : List (Option Key) := path.map PathStep.key?

/-- At the end of a path into a value stands a part of it. -/
inductive Holds : Json → Path → Json → Prop where
  | here (v : Json) : Holds v [] v
  | item {items : List Json} {i : Nat} {v part : Json} {path : Path}
      (hv : items[i]? = some v) (h : Holds v path part) :
      Holds (.arr items) (.item i :: path) part
  | entry {entries : List (Text × Json)} {k : Text} {v part : Json} {path : Path}
      (hv : (k, v) ∈ entries) (h : Holds v path part) :
      Holds (.obj entries) (.key k :: path) part
  | keyed {entries : List (Key × Json)} {k : Key} {v part : Json} {path : Path}
      (hv : (k, v) ∈ entries) (h : Holds v path part) :
      Holds (.keyed entries) (.key k :: path) part

theorem Holds.sizeOf_le {v part : Json} {path : Path} (h : v.Holds path part) :
    sizeOf part + path.length ≤ sizeOf v := by
  induction h with
  | here _ => exact Nat.le_refl _
  | item hv _ ih =>
      have hitem := List.sizeOf_lt_of_mem (List.mem_of_getElem? hv)
      simp only [arr.sizeOf_spec, List.length_cons]
      omega
  | entry hv _ ih =>
      have hentry := List.sizeOf_lt_of_mem hv
      simp only [obj.sizeOf_spec, Prod.mk.sizeOf_spec, List.length_cons] at hentry ⊢
      omega
  | keyed hv _ ih =>
      have hentry := List.sizeOf_lt_of_mem hv
      simp only [keyed.sizeOf_spec, Prod.mk.sizeOf_spec, List.length_cons] at hentry ⊢
      omega

/-- What holds of a value as soon as it holds of all parts in it, holds of every value. -/
theorem inductionOnParts {motive : Json → Prop}
    (h : ∀ v : Json, (∀ step path part, v.Holds (step :: path) part → motive part) → motive v)
    (v : Json) : motive v := by
  refine h v ?_
  intro step path part hpart
  have hsmaller : sizeOf part < sizeOf v := by
    have hle := hpart.sizeOf_le
    rw [List.length_cons] at hle
    omega
  exact inductionOnParts h part
termination_by sizeOf v

theorem Holds.trans {v w part : Json} {p q : Path} (h : v.Holds p w) (hw : w.Holds q part) :
    v.Holds (p ++ q) part := by
  induction h with
  | here _ => exact hw
  | item hv _ ih => exact .item hv (ih hw)
  | entry hv _ ih => exact .entry hv (ih hw)
  | keyed hv _ ih => exact .keyed hv (ih hw)

/-- Only what is empty throughout is empty. -/
theorem Holds.isEmpty_eq_false {v part : Json} {path : Path} (h : v.Holds path part)
    (hpart : part.isEmpty = false) : v.isEmpty = false := by
  cases h with
  | here _ => exact hpart
  | @item items _ _ _ _ hv _ =>
      cases items with
      | nil => cases hv
      | cons _ _ => rfl
  | @entry entries _ _ _ _ hv _ =>
      cases entries with
      | nil => cases hv
      | cons _ _ => rfl
  | @keyed entries _ _ _ _ hv _ =>
      cases entries with
      | nil => cases hv
      | cons _ _ => rfl

theorem Holds.isNull_eq_false {v part : Json} {path : Path} (h : v.Holds path part)
    (hpart : part.isNull = false) : v.isNull = false := by
  cases h with
  | here _ => exact hpart
  | item _ _ => rfl
  | entry _ _ => rfl
  | keyed _ _ => rfl

/-- A value of JSON: every mapping in it is an object, and no object has a name twice. -/
inductive IsProper : Json → Prop where
  | null : IsProper null
  | bool (b : Bool) : IsProper (bool b)
  | int (n : Int) : IsProper (int n)
  | float (x : Float) : IsProper (float x)
  | str (t : Text) : IsProper (str t)
  | arr {items : List Json} (h : ∀ v ∈ items, IsProper v) : IsProper (arr items)
  | obj {entries : List (Text × Json)}
      (hdistinct : Table.Distinct entries) (h : ∀ e ∈ entries, IsProper e.2) :
      IsProper (obj entries)

theorem isProper_arr {items : List Json} : IsProper (.arr items) ↔ ∀ v ∈ items, IsProper v :=
  ⟨fun h => by cases h; assumption, .arr⟩

theorem isProper_obj {entries : List (Text × Json)} :
    IsProper (.obj entries) ↔ Table.Distinct entries ∧ ∀ e ∈ entries, IsProper e.2 :=
  ⟨fun h => by cases h; exact ⟨‹_›, ‹_›⟩, fun h => .obj h.1 h.2⟩

mutual

/-- Whether a value is one of JSON. -/
def decidableIsProper : ∀ v : Json, Decidable v.IsProper
  | .null => .isTrue .null
  | .bool b => .isTrue (.bool b)
  | .int n => .isTrue (.int n)
  | .float x => .isTrue (.float x)
  | .str t => .isTrue (.str t)
  | .arr items =>
      have := decidableIsProperItems items
      decidable_of_iff _ isProper_arr.symm
  | .obj entries =>
      have := decidableIsProperEntries entries
      decidable_of_iff _ isProper_obj.symm
  | .keyed _ => .isFalse nofun

/-- Whether all items are values of JSON. -/
def decidableIsProperItems : ∀ items : List Json, Decidable (∀ v ∈ items, v.IsProper)
  | [] => .isTrue (List.forall_mem_nil _)
  | v :: vs =>
      have := decidableIsProper v
      have := decidableIsProperItems vs
      decidable_of_iff _ List.forall_mem_cons.symm

/-- Whether the values of all entries are values of JSON. -/
def decidableIsProperEntries :
    ∀ entries : List (Text × Json), Decidable (∀ e ∈ entries, e.2.IsProper)
  | [] => .isTrue (List.forall_mem_nil _)
  | (_, v) :: es =>
      have := decidableIsProper v
      have := decidableIsProperEntries es
      decidable_of_iff _ List.forall_mem_cons.symm

end

instance : DecidablePred IsProper := decidableIsProper

/-- What stands in a value of JSON is one too. -/
theorem Holds.isProper {v part : Json} {path : Path} (h : v.Holds path part) (hv : v.IsProper) :
    part.IsProper := by
  induction h with
  | here _ => exact hv
  | item hmem _ ih => exact ih (isProper_arr.mp hv _ (List.mem_of_getElem? hmem))
  | entry hmem _ ih => exact ih ((isProper_obj.mp hv).2 _ hmem)
  | keyed _ _ _ => cases hv

end Json

end ArticleExport
