import ArticleExport.Proofs.Component.Specs
import ArticleExport.Spec.Shelf
import Mathlib.Data.List.Forall2
import Mathlib.Data.List.Nodup

/-!
# What stands in registries

Registries that stand side by side hold no table in common.  So each of them is what the calls on it
make of a registry without specs, where a copy starts from the calls on the registry that it was made
of.  What the calls make of a registry is read off the list of the calls: under each name the spec of
the last call that registers in any case counts, and otherwise that of the first call.
-/

namespace ArticleExport

/-! ## The calls on a registry -/

/-- The spec that a call registers in any case under a component and name. -/
def Registration.override? (component name : Text) : Registration → Option Spec
  | .register s => if s.component = component ∧ s.name = name then some s else none
  | .registerDefault _ => none

/-- The spec that a call registers under a component and name unless there is one. -/
def Registration.default? (component name : Text) : Registration → Option Spec
  | .register _ => none
  | .registerDefault s => if s.component = component ∧ s.name = name then some s else none

/-- The last spec that was registered in any case under a component and name. -/
def lastOverride? (calls : List Registration) (component name : Text) : Option Spec :=
  calls.reverse.findSome? (·.override? component name)

/-- The first spec that was registered under a component and name unless there is one. -/
def firstDefault? (calls : List Registration) (component name : Text) : Option Spec :=
  calls.findSome? (·.default? component name)

/-- The spec that counts after calls. -/
def counting? (calls : List Registration) (component name : Text) : Option Spec :=
  (lastOverride? calls component name).or (firstDefault? calls component name)

/-- The components and names for which there were calls, in order. -/
def places (calls : List Registration) : List (Text × Text) :=
  calls.map fun c => (c.spec.component, c.spec.name)

/-- The names for which there were calls within a component, in order. -/
def namesWithin (calls : List Registration) (component : Text) : List Text :=
  ((places calls).filter (·.1 = component)).map Prod.snd

section Concat

variable (calls : List Registration) (c : Registration) (component name : Text)

theorem lastOverride?_concat :
    lastOverride? (calls ++ [c]) component name =
      (c.override? component name).or (lastOverride? calls component name) := by
  rw [lastOverride?, List.reverse_concat, List.findSome?_cons]
  cases c.override? component name <;> rfl

theorem firstDefault?_concat :
    firstDefault? (calls ++ [c]) component name =
      (firstDefault? calls component name).or (c.default? component name) := by
  rw [firstDefault?, List.findSome?_append, List.findSome?_cons, firstDefault?]
  cases c.default? component name <;> rfl

theorem places_concat :
    places (calls ++ [c]) = places calls ++ [(c.spec.component, c.spec.name)] :=
  List.map_append

theorem namesWithin_concat :
    namesWithin (calls ++ [c]) component =
      if c.spec.component = component then namesWithin calls component ++ [c.spec.name]
      else namesWithin calls component := by
  rw [namesWithin, places_concat, List.filter_append, List.map_append, namesWithin]
  by_cases h : c.spec.component = component
  · rw [if_pos h, List.filter_cons_of_pos (by simpa using h)]
    rfl
  · rw [if_neg h, List.filter_cons_of_neg (by simpa using h)]
    exact List.append_nil _

theorem mem_namesWithin : name ∈ namesWithin calls component ↔ (component, name) ∈ places calls := by
  rw [namesWithin, List.mem_map]
  constructor
  · rintro ⟨⟨_, _⟩, hmem, rfl⟩
    obtain ⟨hplace, hcomponent⟩ := List.mem_filter.mp hmem
    exact of_decide_eq_true hcomponent ▸ hplace
  · intro hplace
    exact ⟨(component, name), List.mem_filter.mpr ⟨hplace, decide_eq_true rfl⟩, rfl⟩

end Concat

/-! ## What one call changes -/

namespace SpecRegistry

variable (r : SpecRegistry) (s : Spec) (component name : Text)

theorem specsFor_register :
    (r.register s).specsFor component =
      if s.component = component then Table.set s.name s (r.specsFor s.component)
      else r.specsFor component := by
  rw [register, specsFor, Table.get?_set]
  split <;> rfl

theorem find?_register :
    (r.register s).find? component name =
      if s.component = component ∧ s.name = name then some s else r.find? component name := by
  rw [find?, specsFor_register]
  by_cases hcomponent : s.component = component
  · subst hcomponent
    simp only [if_true, Table.get?_set, true_and, find?]
  · rw [if_neg hcomponent, if_neg fun h => hcomponent h.1, find?]

theorem has_iff_mem : r.has component name = true ↔ name ∈ (r.specsFor component).keys :=
  Table.has_eq_true_iff

/-- A component with specs is among the components. -/
theorem mem_components_of_has (h : r.has component name = true) : component ∈ r.components := by
  by_contra hnot
  have hnone : r.specsFor component = [] := by
    rw [specsFor, Table.get?_eq_none_iff.mpr hnot, Option.getD_none]
  have hmem := (r.has_iff_mem component name).mp h
  rw [hnone] at hmem
  exact List.not_mem_nil hmem

/-- Changing the specs of a component changes the number of specs by as much. -/
theorem length_flatMap_set {t : Table (Table Spec)} (specs : Table Spec) :
    ((Table.set component specs t).flatMap Prod.snd).length +
        ((Table.get? component t).getD []).length =
      (t.flatMap Prod.snd).length + specs.length := by
  induction t with
  | nil => simp [Table.set]
  | cons e t ih =>
      obtain ⟨k, v⟩ := e
      rw [Table.set, Table.get?_cons]
      split
      · simp only [List.flatMap_cons, List.length_append, Option.getD_some]
        omega
      · simp only [List.flatMap_cons, List.length_append]
        omega

/-- Registering in any case makes one spec more, unless there is one under its name. -/
theorem size_register :
    (r.register s).size = if r.has s.component s.name then r.size else r.size + 1 := by
  have hsize := length_flatMap_set (t := r.byComponent) s.component
    (Table.set s.name s (r.specsFor s.component))
  change (r.register s).size + (r.specsFor s.component).length = r.size + _ at hsize
  rw [Table.length_set] at hsize
  change _ = _ + (if r.has s.component s.name = true then _ else _) at hsize
  split
  · rename_i h
    rw [if_pos h] at hsize
    exact Nat.add_right_cancel hsize
  · rename_i h
    rw [if_neg h] at hsize
    omega

end SpecRegistry

namespace Registration

/-- A call registers its spec, or finds one under its name and leaves the registry as it is. -/
theorem applyTo_cases (r : SpecRegistry) (c : Registration) :
    c.applyTo r = r.register c.spec ∨
      c.applyTo r = r ∧ r.has c.spec.component c.spec.name = true := by
  cases c with
  | register s => exact .inl rfl
  | registerDefault s =>
      by_cases h : r.has s.component s.name = true
      · exact .inr ⟨if_pos h, h⟩
      · exact .inl (if_neg h)

/-- What a call registers in any case comes before what was there, and what it registers otherwise
comes behind. -/
theorem find?_applyTo (r : SpecRegistry) (c : Registration) (component name : Text) :
    (c.applyTo r).find? component name =
      (c.override? component name).or ((r.find? component name).or (c.default? component name)) := by
  cases c with
  | register s =>
      rw [applyTo, SpecRegistry.find?_register, override?, default?, Option.or_none]
      split <;> rfl
  | registerDefault s =>
      rw [applyTo, SpecRegistry.registerDefault, override?, default?, Option.none_or]
      by_cases hplace : s.component = component ∧ s.name = name
      · rw [if_pos hplace]
        obtain ⟨rfl, rfl⟩ := hplace
        by_cases hhas : r.has s.component s.name = true
        · obtain ⟨t, ht⟩ := Option.isSome_iff_exists.mp hhas
          rw [if_pos hhas, ht, Option.some_or]
        · have hnone : r.find? s.component s.name = none :=
            Option.not_isSome_iff_eq_none.mp hhas
          rw [if_neg hhas, SpecRegistry.find?_register, if_pos ⟨rfl, rfl⟩, hnone, Option.none_or]
      · rw [if_neg hplace, Option.or_none]
        split
        · rfl
        · rw [SpecRegistry.find?_register, if_neg hplace]

end Registration

/-! ## What calls make of a registry without specs -/

namespace SpecRegistry

/-- The registry after calls on one without specs. -/
def replay (calls : List Registration) : SpecRegistry := calls.foldl Registration.applyTo empty

theorem replay_concat (calls : List Registration) (c : Registration) :
    replay (calls ++ [c]) = c.applyTo (replay calls) := by
  rw [replay, List.foldl_append, List.foldl_cons, List.foldl_nil, replay]

theorem find?_replay (calls : List Registration) (component name : Text) :
    (replay calls).find? component name = counting? calls component name := by
  induction calls using List.reverseRecOn with
  | nil => rfl
  | append_singleton calls c ih =>
      rw [replay_concat, Registration.find?_applyTo, ih, counting?, counting?,
        lastOverride?_concat, firstDefault?_concat]
      simp only [Option.or_assoc]

theorem keys_specsFor_replay (calls : List Registration) (component : Text) :
    ((replay calls).specsFor component).keys = (namesWithin calls component).eraseDups := by
  induction calls using List.reverseRecOn with
  | nil => rfl
  | append_singleton calls c ih =>
      rw [replay_concat, namesWithin_concat]
      rcases c.applyTo_cases (replay calls) with heq | ⟨heq, hhas⟩
      · rw [heq, specsFor_register]
        split
        · rename_i hcomponent
          rw [hcomponent]
          exact Table.keys_set_of_eq_eraseDups ih _ _
        · exact ih
      · rw [heq, ih]
        split
        · rename_i hcomponent
          have hmem := (has_iff_mem _ _ _).mp hhas
          rw [hcomponent, ih, List.mem_eraseDups] at hmem
          exact (Table.eraseDups_concat_of_mem hmem).symm
        · rfl

theorem has_replay_iff (calls : List Registration) (component name : Text) :
    (replay calls).has component name = true ↔ (component, name) ∈ places calls := by
  rw [has_iff_mem, keys_specsFor_replay, List.mem_eraseDups, mem_namesWithin]

theorem components_replay (calls : List Registration) :
    (replay calls).components = ((places calls).map Prod.fst).eraseDups := by
  induction calls using List.reverseRecOn with
  | nil => rfl
  | append_singleton calls c ih =>
      rw [replay_concat, places_concat, List.map_append]
      rcases c.applyTo_cases (replay calls) with heq | ⟨heq, hhas⟩
      · rw [heq]
        exact Table.keys_set_of_eq_eraseDups ih _ _
      · have hmem := mem_components_of_has _ _ _ hhas
        rw [ih, List.mem_eraseDups] at hmem
        rw [heq, ih]
        exact (Table.eraseDups_concat_of_mem hmem).symm

theorem size_replay (calls : List Registration) :
    (replay calls).size = (places calls).eraseDups.length := by
  induction calls using List.reverseRecOn with
  | nil => rfl
  | append_singleton calls c ih =>
      rw [replay_concat, places_concat]
      have hmem := has_replay_iff calls c.spec.component c.spec.name
      by_cases hhas : (replay calls).has c.spec.component c.spec.name = true
      · rw [Table.eraseDups_concat_of_mem (hmem.mp hhas)]
        rcases c.applyTo_cases (replay calls) with heq | ⟨heq, -⟩
        · rw [heq, size_register, if_pos hhas, ih]
        · rw [heq, ih]
      · rw [Table.eraseDups_concat_of_not_mem (mt hmem.mpr hhas)]
        rcases c.applyTo_cases (replay calls) with heq | ⟨-, hhas'⟩
        · rw [heq, size_register, if_neg hhas, ih, List.length_append, List.length_singleton]
        · exact absurd hhas' hhas

/-- A registry shows the calls on it: of each name the spec that counts, and names and components in
the order in which they came. -/
structure Records (r : SpecRegistry) (calls : List Registration) : Prop where
  /-- The last spec that was registered in any case is there, or else the first one that was not, or
  else there is no spec. -/
  get : ∀ component name, r.get component name =
    match counting? calls component name with
    | some s => .ok s
    | none => .error (.unknownSpec component name (namesWithin calls component).eraseDups)
  has : ∀ component name, r.has component name = (r.get component name).isOk
  size : r.size = (places calls).eraseDups.length
  components : r.components = ((places calls).map Prod.fst).eraseDups
  names : ∀ component, (r.specsFor component).keys = (namesWithin calls component).eraseDups

theorem records_replay (calls : List Registration) : Records (replay calls) calls where
  get component name := by
    have hfind := find?_replay calls component name
    cases hcounting : counting? calls component name with
    | some s => rw [get, hfind, hcounting]
    | none => rw [get, hfind, hcounting, keys_specsFor_replay]
  has component name := by
    rw [has, get]
    cases (replay calls).find? component name <;> rfl
  size := size_replay calls
  components := components_replay calls
  names := keys_specsFor_replay calls

end SpecRegistry

/-! ## Registries side by side -/

/-- Acts on the items that stand for registries: on one of them for a call, and for a copy by putting
the item of the registry that is copied at the end. -/
def ShelfOp.onEach {α : Type} (act : α → Registration → α) (xs : List α) : ShelfOp → List α
  | .call i c => xs.modify i (act · c)
  | .copy i => xs ++ xs[i]?.toList

theorem ShelfOp.map_onEach
    {α β : Type} {act : α → Registration → α} {act' : β → Registration → β} {f : α → β}
    (h : ∀ x c, f (act x c) = act' (f x) c) (xs : List α) (op : ShelfOp) :
    (op.onEach act xs).map f = op.onEach act' (xs.map f) := by
  cases op with
  | call i c =>
      refine List.ext_getElem? fun j => ?_
      simp only [onEach, List.getElem?_map, List.getElem?_modify, Option.map_map,
        Option.map_eq_map]
      congr 1
      funext x
      by_cases hij : i = j
      · simp only [Function.comp_apply, if_pos hij, h]
      · simp only [Function.comp_apply, if_neg hij]
  | copy i =>
      rw [onEach, onEach, List.map_append, List.getElem?_map]
      cases xs[i]? <;> rfl

/-- The calls that count for each registry: those on it, and for a copy before them those that counted
for the registry that it was made of. -/
def histories (ops : List ShelfOp) : List (List Registration) :=
  ops.foldl (ShelfOp.onEach fun calls c => calls ++ [c]) [[]]

namespace SpecShelf

open Table (mapValues)

/-- No table is held twice, by one registry or by two. -/
structure Separate (shelf : SpecShelf) : Prop where
  nodup : (shelf.registries.flatMap Table.values).Nodup
  made : ∀ number ∈ shelf.registries.flatMap Table.values, number < shelf.tables.length

theorem view_eq (shelf : SpecShelf) (held : Table Nat) :
    shelf.view held = ⟨mapValues shelf.tableAt held⟩ := rfl

/-- What stands in a registry depends on the tables that it holds only. -/
theorem view_congr {shelf shelf' : SpecShelf} {held : Table Nat}
    (h : ∀ number ∈ held.values, shelf.tableAt number = shelf'.tableAt number) :
    shelf.view held = shelf'.view held := by
  rw [view_eq, view_eq, Table.mapValues_congr h]

theorem tableAt_append {shelf shelf' : SpecShelf} {more : List (Table Spec)}
    (h : shelf'.tables = shelf.tables ++ more) {number : Nat} (hmade : number < shelf.tables.length) :
    shelf'.tableAt number = shelf.tableAt number := by
  rw [tableAt, tableAt, h, List.getElem?_append_left hmade]

/-- New tables do not show in a registry that holds old ones. -/
theorem view_append {shelf shelf' : SpecShelf} {more : List (Table Spec)} {held : Table Nat}
    (h : shelf'.tables = shelf.tables ++ more)
    (hmade : ∀ number ∈ held.values, number < shelf.tables.length) :
    shelf'.view held = shelf.view held :=
  view_congr fun number hnumber => tableAt_append h (hmade number hnumber)

section Register

variable {shelf : SpecShelf} {i : Nat} {held : Table Nat} {s : Spec}

theorem Separate.made_of_getElem? (h : shelf.Separate) (hheld : shelf.registries[i]? = some held) :
    ∀ number ∈ held.values, number < shelf.tables.length := by
  intro number hnumber
  exact h.made number
    (List.mem_flatMap.mpr ⟨held, List.mem_of_getElem? hheld, hnumber⟩)

theorem Separate.nodup_of_getElem? (h : shelf.Separate) (hheld : shelf.registries[i]? = some held) :
    held.values.Nodup :=
  (List.nodup_flatMap.mp h.nodup).1 held (List.mem_of_getElem? hheld)

/-- Two registries hold no table in common. -/
theorem Separate.disjoint (h : shelf.Separate) {j : Nat} {other : Table Nat}
    (hheld : shelf.registries[i]? = some held) (hother : shelf.registries[j]? = some other)
    (hij : i ≠ j) : List.Disjoint held.values other.values := by
  obtain ⟨hi, rfl⟩ := List.getElem?_eq_some_iff.mp hheld
  obtain ⟨hj, rfl⟩ := List.getElem?_eq_some_iff.mp hother
  have hpairs := List.pairwise_iff_getElem.mp (List.nodup_flatMap.mp h.nodup).2
  rcases Nat.lt_or_gt_of_ne hij with hlt | hgt
  · exact hpairs i j hi hj hlt
  · exact fun number hnumber hother => hpairs j i hj hi hgt hother hnumber

/-- A table changed in its place changes the entry of the registry that holds it. -/
theorem mapValues_eq_set
    {β : Type} {f g : Nat → β} {name : Text} {number : Nat} (hnodup : held.values.Nodup)
    (hnumber : Table.get? name held = some number)
    (hsame : ∀ other, other ≠ number → f other = g other) :
    mapValues f held = Table.set name (f number) (mapValues g held) := by
  induction held with
  | nil => cases hnumber
  | cons e held ih =>
      obtain ⟨k, v⟩ := e
      obtain ⟨hnew, hheld⟩ : v ∉ Table.values held ∧ (Table.values held).Nodup :=
        List.nodup_cons.mp hnodup
      rw [Table.get?_cons] at hnumber
      change (k, f v) :: mapValues f held = Table.set name _ ((k, g v) :: mapValues g held)
      rw [Table.set]
      by_cases hname : k = name
      · rw [if_pos hname] at hnumber ⊢
        obtain rfl := Option.some.inj hnumber
        have hrest : mapValues f held = mapValues g held := by
          refine Table.mapValues_congr ?_
          intro other hother
          exact hsame other fun heq => hnew (heq ▸ hother)
        rw [hrest]
      · rw [if_neg hname] at hnumber ⊢
        have hne : v ≠ number := by
          rintro rfl
          exact hnew (List.mem_map_of_mem (Table.mem_of_get?_eq_some hnumber))
        rw [hsame v hne, ih hheld hnumber]

theorem specsFor_view (shelf : SpecShelf) (held : Table Nat) (component : Text) :
    (shelf.view held).specsFor component =
      ((Table.get? component held).map shelf.tableAt).getD [] := by
  rw [SpecRegistry.specsFor, view_eq, Table.get?_mapValues]

theorem getElem?_views (shelf : SpecShelf) (j : Nat) :
    shelf.views[j]? = shelf.registries[j]?.map shelf.view :=
  List.getElem?_map

theorem getElem?_views_of_getElem? (hheld : shelf.registries[i]? = some held) :
    shelf.views[i]? = some (shelf.view held) := by
  rw [getElem?_views, hheld, Option.map_some]

theorem register_of_get? {number : Nat} (hnumber : Table.get? s.component held = some number) :
    shelf.register i held s =
      { shelf with tables := shelf.tables.modify number (Table.set s.name s) } := by
  rw [register, hnumber]

theorem register_of_not_mem (hnew : s.component ∉ held.keys) :
    shelf.register i held s =
      { tables := shelf.tables ++ [[(s.name, s)]]
        registries := shelf.registries.set i (held ++ [(s.component, shelf.tables.length)]) } := by
  rw [register, Table.get?_eq_none_iff.mpr hnew, Table.set_of_not_mem hnew]

/-- A table of the component is changed in its place. -/
theorem view_register_of_get?
    (h : shelf.Separate) (hheld : shelf.registries[i]? = some held) {number : Nat}
    (hnumber : Table.get? s.component held = some number) :
    (shelf.register i held s).view held = (shelf.view held).register s := by
  have hlt : number < shelf.tables.length :=
    h.made_of_getElem? hheld number (List.mem_map_of_mem (Table.mem_of_get?_eq_some hnumber))
  have hsame (other : Nat) (hne : other ≠ number) :
      (shelf.register i held s).tableAt other = shelf.tableAt other := by
    rw [register_of_get? hnumber, tableAt, tableAt, List.getElem?_modify_ne _ _ (Ne.symm hne)]
  have hchanged : (shelf.register i held s).tableAt number =
      Table.set s.name s (shelf.tableAt number) := by
    rw [register_of_get? hnumber, tableAt, tableAt, List.getElem?_modify_eq,
      List.getElem?_eq_getElem hlt]
    rfl
  rw [SpecRegistry.register, specsFor_view, hnumber, view_eq, view_eq,
    mapValues_eq_set (h.nodup_of_getElem? hheld) hnumber hsame, hchanged]
  rfl

/-- A component without a table gets one behind those of the others. -/
theorem view_register_of_not_mem
    (h : shelf.Separate) (hheld : shelf.registries[i]? = some held)
    (hnew : s.component ∉ held.keys) :
    (shelf.register i held s).view (held ++ [(s.component, shelf.tables.length)]) =
      (shelf.view held).register s := by
  have htables : (shelf.register i held s).tables = shelf.tables ++ [[(s.name, s)]] := by
    rw [register_of_not_mem hnew]
  have hview := view_append htables (h.made_of_getElem? hheld)
  rw [view_eq, view_eq, SpecRegistry.mk.injEq] at hview
  have hlast : (shelf.register i held s).tableAt shelf.tables.length = [(s.name, s)] := by
    rw [tableAt, htables, List.getElem?_concat_length]
    rfl
  have hkeys : s.component ∉ Table.keys (mapValues shelf.tableAt held) := by
    rw [Table.keys_mapValues]
    exact hnew
  rw [SpecRegistry.register, specsFor_view, Table.get?_eq_none_iff.mpr hnew, view_eq, view_eq,
    Table.set_of_not_mem hkeys, mapValues, List.map_append, ← mapValues, hview, List.map_singleton,
    hlast]
  rfl

/-- The registry in which a spec is registered. -/
theorem getElem?_views_register_self (h : shelf.Separate) (hheld : shelf.registries[i]? = some held) :
    (shelf.register i held s).views[i]? = some ((shelf.view held).register s) := by
  rw [getElem?_views]
  cases hnumber : Table.get? s.component held with
  | some number =>
      have hregistry : (shelf.register i held s).registries[i]? = some held := by
        rw [register_of_get? hnumber]
        exact hheld
      rw [hregistry, Option.map_some, view_register_of_get? h hheld hnumber]
  | none =>
      have hnew := Table.get?_eq_none_iff.mp hnumber
      have hlt := (List.getElem?_eq_some_iff.mp hheld).1
      have hregistry : (shelf.register i held s).registries[i]? =
          some (held ++ [(s.component, shelf.tables.length)]) := by
        rw [register_of_not_mem hnew]
        exact List.getElem?_set_self hlt
      rw [hregistry, Option.map_some, view_register_of_not_mem h hheld hnew]

/-- The other registries. -/
theorem getElem?_views_register_of_ne
    (h : shelf.Separate) (hheld : shelf.registries[i]? = some held) {j : Nat} (hij : i ≠ j) :
    (shelf.register i held s).views[j]? = shelf.views[j]? := by
  rw [getElem?_views, getElem?_views]
  cases hnumber : Table.get? s.component held with
  | some number =>
      rw [register_of_get? hnumber]
      refine Option.map_congr fun other hother => view_congr fun n hn => ?_
      have hne : number ≠ n := by
        rintro rfl
        exact h.disjoint hheld hother hij
          (List.mem_map_of_mem (Table.mem_of_get?_eq_some hnumber)) hn
      rw [tableAt, tableAt, List.getElem?_modify_ne _ _ hne]
  | none =>
      rw [register_of_not_mem (Table.get?_eq_none_iff.mp hnumber), List.getElem?_set_ne hij]
      exact Option.map_congr fun other hother => view_append rfl (h.made_of_getElem? hother)

theorem views_register (h : shelf.Separate) (hheld : shelf.registries[i]? = some held) :
    (shelf.register i held s).views = shelf.views.modify i (·.register s) := by
  refine List.ext_getElem? fun j => ?_
  by_cases hij : i = j
  · subst hij
    rw [getElem?_views_register_self h hheld, List.getElem?_modify_eq,
      getElem?_views_of_getElem? hheld]
    rfl
  · rw [getElem?_views_register_of_ne h hheld hij, List.getElem?_modify_ne _ _ hij]

/-- A table that one registry more holds is held once. -/
theorem flatMap_set_perm
    {registries : List (Table Nat)} (hheld : registries[i]? = some held) (name : Text)
    (number : Nat) :
    ((registries.set i (held ++ [(name, number)])).flatMap Table.values).Perm
      (number :: registries.flatMap Table.values) := by
  induction registries generalizing i with
  | nil => cases hheld
  | cons r registries ih =>
      cases i with
      | zero =>
          obtain rfl := Option.some.inj hheld
          rw [List.set_cons_zero, List.flatMap_cons, Table.values, List.map_append,
            List.append_assoc]
          exact List.perm_middle
      | succ i =>
          rw [List.set_cons_succ, List.flatMap_cons]
          exact ((ih hheld).append_left r.values).trans List.perm_middle

theorem Separate.register (h : shelf.Separate) (hheld : shelf.registries[i]? = some held) :
    (shelf.register i held s).Separate := by
  cases hnumber : Table.get? s.component held with
  | some number =>
      rw [register_of_get? hnumber]
      refine ⟨h.nodup, ?_⟩
      intro n hn
      rw [List.length_modify]
      exact h.made n hn
  | none =>
      rw [register_of_not_mem (Table.get?_eq_none_iff.mp hnumber)]
      have hperm := flatMap_set_perm hheld s.component shelf.tables.length
      constructor
      · refine hperm.nodup_iff.mpr (List.nodup_cons.mpr ⟨?_, h.nodup⟩)
        intro hmem
        exact Nat.lt_irrefl _ (h.made _ hmem)
      · intro n hn
        rw [List.length_append, List.length_singleton]
        rcases List.mem_cons.mp (hperm.mem_iff.mp hn) with rfl | hold
        · exact Nat.lt_succ_self _
        · exact Nat.lt_succ_of_lt (h.made n hold)

end Register

section Copy

variable {shelf : SpecShelf} {held : Table Nat}

theorem values_numbered (first : Nat) (names : List Text) :
    (numbered first names).values = List.range' first names.length := by
  induction names generalizing first with
  | nil => rfl
  | cons name names ih =>
      change first :: (numbered (first + 1) names).values = _
      rw [ih, List.length_cons, List.range'_succ]

/-- New tables under numbers of their own hold what the old ones hold. -/
theorem mapValues_numbered
    {β : Type} [Inhabited β] (g : Nat → β) (held : Table Nat) (before : List β) :
    mapValues (fun number => ((before ++ held.map fun e => g e.2)[number]?).getD default)
        (numbered before.length held.keys) =
      mapValues g held := by
  induction held generalizing before with
  | nil => rfl
  | cons e held ih =>
      obtain ⟨k, v⟩ := e
      have hrest := ih (before ++ [g v])
      rw [List.length_append, List.length_singleton, List.append_assoc] at hrest
      have hfirst :
          ((before ++ ((k, v) :: held).map fun e => g e.2)[before.length]?).getD default = g v := by
        rw [List.getElem?_append_right (Nat.le_refl _), Nat.sub_self]
        rfl
      exact congrArg₂ (fun value rest => (k, value) :: rest) hfirst hrest

theorem views_copy (h : shelf.Separate) (held : Table Nat) :
    (shelf.copy held).views = shelf.views ++ [shelf.view held] := by
  have hnew : (shelf.copy held).view (numbered shelf.tables.length held.keys) = shelf.view held :=
    congrArg SpecRegistry.mk (mapValues_numbered shelf.tableAt held shelf.tables)
  have hold : shelf.registries.map (shelf.copy held).view = shelf.views := by
    refine List.map_congr_left fun other hother => view_append rfl ?_
    intro number hnumber
    exact h.made number (List.mem_flatMap.mpr ⟨other, hother, hnumber⟩)
  change (shelf.registries ++ [_]).map (shelf.copy held).view = _
  rw [List.map_append, List.map_singleton, hnew, hold]

theorem Separate.copy (h : shelf.Separate) (held : Table Nat) : (shelf.copy held).Separate := by
  have hheld : (shelf.copy held).registries.flatMap Table.values =
      shelf.registries.flatMap Table.values ++
        List.range' shelf.tables.length held.keys.length := by
    change (shelf.registries ++ [_]).flatMap Table.values = _
    rw [List.flatMap_append, List.flatMap_singleton, values_numbered]
  have hlength : (shelf.copy held).tables.length = shelf.tables.length + held.keys.length := by
    change (shelf.tables ++ _).length = _
    rw [List.length_append, List.length_map, Table.keys, List.length_map]
  constructor
  · rw [hheld]
    refine List.nodup_append.mpr ⟨h.nodup, List.nodup_range', ?_⟩
    rintro number hold _ hnew rfl
    have hlt := h.made number hold
    have hge := (List.mem_range'_1.mp hnew).1
    omega
  · intro number hnumber
    rw [hheld, List.mem_append] at hnumber
    rw [hlength]
    rcases hnumber with hold | hnew
    · exact Nat.lt_add_right _ (h.made number hold)
    · exact (List.mem_range'_1.mp hnew).2

end Copy

theorem Separate.call
    {shelf : SpecShelf} {i : Nat} {held : Table Nat} (h : shelf.Separate)
    (hheld : shelf.registries[i]? = some held) (c : Registration) :
    (shelf.call i held c).Separate := by
  cases c with
  | register s => exact h.register hheld
  | registerDefault s =>
      rw [SpecShelf.call]
      split
      · exact h
      · exact h.register hheld

theorem views_call
    {shelf : SpecShelf} {i : Nat} {held : Table Nat} (h : shelf.Separate)
    (hheld : shelf.registries[i]? = some held) (c : Registration) :
    (shelf.call i held c).views = shelf.views.modify i c.applyTo := by
  cases c with
  | register s => exact views_register h hheld
  | registerDefault s =>
      obtain ⟨hi, hview⟩ := List.getElem?_eq_some_iff.mp (getElem?_views_of_getElem? hheld)
      have hset (f : SpecRegistry → SpecRegistry) :
          shelf.views.modify i f = shelf.views.set i (f (shelf.view held)) := by
        rw [List.modify_eq_set_getElem?, getElem?_views_of_getElem? hheld]
        rfl
      rw [call, hset]
      split
      · rename_i hhas
        have hkept : (Registration.registerDefault s).applyTo (shelf.view held) = shelf.view held :=
          if_pos hhas
        rw [hkept, ← hview, List.set_getElem_self]
      · rename_i hhas
        have hregistered : (Registration.registerDefault s).applyTo (shelf.view held) =
            (shelf.view held).register s :=
          if_neg hhas
        rw [hregistered, views_register h hheld, hset]

/-- One thing that is done changes one registry by a call, or adds a copy; the registries go on
holding no table in common. -/
theorem separate_and_views_apply {shelf : SpecShelf} (h : shelf.Separate) (op : ShelfOp) :
    (shelf.apply op).Separate ∧
      (shelf.apply op).views = op.onEach (fun r c => c.applyTo r) shelf.views := by
  cases op with
  | call i c =>
      rw [apply, ShelfOp.onEach]
      cases hheld : shelf.registries[i]? with
      | some held => exact ⟨h.call hheld c, views_call h hheld c⟩
      | none =>
          have hlength : shelf.views.length ≤ i := by
            rw [views, List.length_map]
            exact List.getElem?_eq_none_iff.mp hheld
          exact ⟨h, (List.modify_eq_self hlength).symm⟩
  | copy i =>
      rw [apply, ShelfOp.onEach, getElem?_views]
      cases hheld : shelf.registries[i]? with
      | some held => exact ⟨h.copy held, views_copy h held⟩
      | none => exact ⟨h, (List.append_nil _).symm⟩

theorem run_concat (shelf : SpecShelf) (ops : List ShelfOp) (op : ShelfOp) :
    shelf.run (ops ++ [op]) = (shelf.run ops).apply op := by
  rw [run, List.foldl_append, List.foldl_cons, List.foldl_nil, run]

theorem separate_start : start.Separate := ⟨List.nodup_nil, fun _ h => absurd h List.not_mem_nil⟩

theorem Separate.run {shelf : SpecShelf} (h : shelf.Separate) (ops : List ShelfOp) :
    (shelf.run ops).Separate := by
  induction ops using List.reverseRecOn with
  | nil => exact h
  | append_singleton ops op ih =>
      rw [run_concat]
      exact (separate_and_views_apply ih op).1

/-- Each registry is what the calls that count for it make of one without specs. -/
theorem views_run (ops : List ShelfOp) :
    (start.run ops).views = (histories ops).map SpecRegistry.replay := by
  induction ops using List.reverseRecOn with
  | nil => rfl
  | append_singleton ops op ih =>
      have hviews := (separate_and_views_apply (separate_start.run ops) op).2
      rw [run_concat, hviews, ih, histories, histories, List.foldl_append, List.foldl_cons,
        List.foldl_nil]
      exact (ShelfOp.map_onEach SpecRegistry.replay_concat _ op).symm

/-- What is done to the other registries does not show in a registry. -/
theorem getElem?_views_run_of_forall
    {shelf : SpecShelf} (h : shelf.Separate) {i : Nat} (hi : i < shelf.views.length)
    (ops : List ShelfOp) (hops : ∀ op ∈ ops, ∀ c, op ≠ .call i c) :
    (shelf.run ops).views[i]? = shelf.views[i]? := by
  induction ops generalizing shelf with
  | nil => rfl
  | cons op ops ih =>
      obtain ⟨hseparate, hviews⟩ := separate_and_views_apply h op
      have hkept : (shelf.apply op).views[i]? = shelf.views[i]? := by
        rw [hviews]
        cases op with
        | call j c =>
            refine List.getElem?_modify_ne _ _ ?_
            rintro rfl
            exact hops _ (.head _) c rfl
        | copy j => exact List.getElem?_append_left hi
      have hi' : i < (shelf.apply op).views.length := by
        rw [List.getElem?_eq_getElem hi] at hkept
        exact (List.getElem?_eq_some_iff.mp hkept).1
      exact (ih hseparate hi' fun op hop => hops op (.tail _ hop)).trans hkept

/-- Whatever is done to registries side by side, each of them shows the calls that count for it, those
before it was copied from another one included: of each name the last spec that was registered in any
case, and else the first one.  A copy is at first what it was made of, and what is done to one registry
never shows in another. -/
theorem run_records_histories (ops : List ShelfOp) :
    List.Forall₂ SpecRegistry.Records (start.run ops).views (histories ops) ∧
      (∀ i, (start.run (ops ++ [.copy i])).views =
        (start.run ops).views ++ (start.run ops).views[i]?.toList) ∧
      ∀ i more, i < (start.run ops).views.length → (∀ op ∈ more, ∀ c, op ≠ .call i c) →
        (start.run (ops ++ more)).views[i]? = (start.run ops).views[i]? := by
  have hseparate := separate_start.run ops
  refine ⟨?_, ?_, ?_⟩
  · rw [views_run, List.forall₂_map_left_iff, List.forall₂_same]
    exact fun calls _ => SpecRegistry.records_replay calls
  · intro i
    rw [run_concat]
    exact (separate_and_views_apply hseparate (.copy i)).2
  · intro i more hi hmore
    have hrun : start.run (ops ++ more) = (start.run ops).run more := List.foldl_append
    rw [hrun]
    exact getElem?_views_run_of_forall hseparate hi more hmore

/-- An override on a copy leaves the original, and a default after it changes nothing. -/
theorem run_records_histories_of_ribbon :
    let plain : Spec := ⟨"ribbon", "json", "Plain", .obj [("role", .str "body")]⟩
    let bold : Spec := ⟨"ribbon", "json", "Bold", .obj [("role", .str "heading")]⟩
    let ops : List ShelfOp := [.call 0 (.registerDefault plain), .copy 0]
    let more : List ShelfOp := [.call 1 (.register bold), .call 1 (.registerDefault plain)]
    List.Forall₂ SpecRegistry.Records (start.run (ops ++ more)).views (histories (ops ++ more)) ∧
      (start.run (ops ++ more)).views[0]? = (start.run ops).views[0]? ∧
      (start.run (ops ++ more)).views.map (·.find? "ribbon" "json") = [some plain, some bold] := by
  intro plain bold ops more
  have hmore : ∀ op ∈ more, ∀ c, op ≠ .call 0 c := by simp [more]
  exact ⟨(run_records_histories (ops ++ more)).1,
    (run_records_histories ops).2.2 0 more (by decide) hmore, by decide⟩

end SpecShelf

end ArticleExport
