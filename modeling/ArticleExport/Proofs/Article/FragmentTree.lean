import ArticleExport.Article.Assembly
import ArticleExport.Proofs.Table

/-!
# Fragments at every depth

A fragment of an article may hold further ones under `components`: those of an aside and
those of a list of footnotes.
-/

namespace ArticleExport

/-- The name under which a fragment holds others. -/
def componentsKey : Text := "components"

namespace Json

mutual

/-- A fragment and all fragments in it, in depth-first order. -/
def fragments : Json → List Json
  | .obj entries => .obj entries :: fragmentsUnder entries
  | _ => []

/-- The fragments that stand under `components`. -/
def fragmentsUnder : List (Text × Json) → List Json
  | [] => []
  | (k, .arr items) :: es => if k = componentsKey then fragmentsOf items else fragmentsUnder es
  | (k, _) :: es => if k = componentsKey then [] else fragmentsUnder es

/-- The fragments of a list and all fragments in them, in depth-first order. -/
def fragmentsOf : List Json → List Json
  | [] => []
  | v :: vs => fragments v ++ fragmentsOf vs

end

theorem fragments_obj (entries : Table Json) :
    fragments (.obj entries) = .obj entries :: fragmentsUnder entries := by
  rw [fragments]

theorem fragmentsUnder_of_get?_eq_some
    {entries : Table Json} {items : List Json}
    (h : Table.get? componentsKey entries = some (.arr items)) :
    fragmentsUnder entries = fragmentsOf items := by
  induction entries with
  | nil => cases h
  | cons e entries ih =>
      obtain ⟨k, v⟩ := e
      rw [Table.get?_cons] at h
      by_cases hk : k = componentsKey
      · rw [if_pos hk] at h
        obtain rfl := Option.some.inj h
        rw [fragmentsUnder, if_pos hk]
      · rw [if_neg hk] at h
        cases v <;> simpa only [fragmentsUnder, if_neg hk] using ih h

theorem fragmentsUnder_of_get?_eq_none
    {entries : Table Json} (h : Table.get? componentsKey entries = none) :
    fragmentsUnder entries = [] := by
  induction entries with
  | nil => rfl
  | cons e entries ih =>
      obtain ⟨k, v⟩ := e
      rw [Table.get?_cons] at h
      by_cases hk : k = componentsKey
      · rw [if_pos hk] at h
        cases h
      · rw [if_neg hk] at h
        cases v <;> simpa only [fragmentsUnder, if_neg hk] using ih h

/-- What is set under another name leaves the fragments inside alone. -/
theorem fragmentsUnder_set {name : Text} (h : name ≠ componentsKey) (value : Json)
    (entries : Table Json) :
    fragmentsUnder (Table.set name value entries) = fragmentsUnder entries := by
  induction entries with
  | nil => cases value <;> simp only [Table.set, fragmentsUnder, if_neg h]
  | cons e entries ih =>
      obtain ⟨k, v⟩ := e
      rw [Table.set]
      by_cases hk : k = name
      · have hother : k ≠ componentsKey := hk ▸ h
        rw [if_pos hk]
        cases v <;> cases value <;> simp only [fragmentsUnder, if_neg hother]
      · rw [if_neg hk]
        cases v <;> simp only [fragmentsUnder, ih]

theorem mem_fragmentsOf {f : Json} {items : List Json} :
    f ∈ fragmentsOf items ↔ ∃ v ∈ items, f ∈ fragments v := by
  induction items with
  | nil => simp [fragmentsOf]
  | cons v items ih => simp [fragmentsOf, ih]

end Json

namespace Component

/-- The fragment of a component and all fragments in it. -/
def fragments (c : Component) : List Json := c.fragment.fragments

theorem fragments_eq (c : Component) :
    c.fragments = c.fragment :: Json.fragmentsUnder c.json :=
  Json.fragments_obj c.json

theorem field?_set (c : Component) (name other : Text) (value : Json) :
    (c.set name value).fragment.field? other =
      if name = other then some value else c.fragment.field? other :=
  Table.get?_set name other value c.json

theorem fragments_set (c : Component) {name : Text} (h : name ≠ componentsKey) (value : Json) :
    (c.set name value).fragments = (c.set name value).fragment :: Json.fragmentsUnder c.json := by
  rw [fragments_eq]
  exact congrArg _ (Json.fragmentsUnder_set h value c.json)

end Component

/-- The fragments of an article that stand in no other one. -/
def topFragments (article : Table Json) : List Json :=
  ((Table.get? componentsKey article).getD .null).itemsOf

/-- The fragments of an article at every depth, in depth-first order. -/
def allFragments (article : Table Json) : List Json := Json.fragmentsOf (topFragments article)

/-- The fragments under `components` are those of the list that stands there. -/
theorem Json.fragmentsUnder_eq (entries : Table Json) :
    fragmentsUnder entries = allFragments entries := by
  rw [allFragments, topFragments]
  induction entries with
  | nil => rfl
  | cons e entries ih =>
      obtain ⟨k, v⟩ := e
      rw [Table.get?_cons]
      by_cases hk : k = componentsKey
      · cases v <;> simp only [fragmentsUnder, if_pos hk] <;> rfl
      · cases v <;> simpa only [fragmentsUnder, if_neg hk] using ih

end ArticleExport
