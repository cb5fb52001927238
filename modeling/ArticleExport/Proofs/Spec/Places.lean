import ArticleExport.Proofs.Spec.Variants

/-!
# Where the parts of a template come out

Outside of variants a part of a template comes out resolved, under the same names and behind
as many items as come out before it.  A field of a variant comes out in the entry of that
variant, and everything in it is pruned besides.
-/

namespace ArticleExport.Spec

variable {lookup : Text → Json}

/-- The parts of a template that are resolved, each with the path to it and with whether it belongs to
a field of a variant.  Conditions of variants are no such parts, nor is a list of variants. -/
inductive Reaches : Json → Json.Path → Json → Bool → Prop where
  | here (v : Json) : Reaches v [] v false
  | item {items : List Json} {i : Nat} {v part : Json} {path : Json.Path} {inVariant : Bool}
      (hv : items[i]? = some v) (h : Reaches v path part inVariant) :
      Reaches (.arr items) (.item i :: path) part inVariant
  | entry {entries : Table Json} {k : Text} {v part : Json} {path : Json.Path} {inVariant : Bool}
      (hv : (k, v) ∈ entries) (hk : k = conditionalKey → isList v = false)
      (h : Reaches v path part inVariant) :
      Reaches (.obj entries) (.key k :: path) part inVariant
  | field {entries variant : Table Json} {items : List Json} {i : Nat} {k : Text} {v part : Json}
      {path : Json.Path} {inVariant : Bool}
      (hitems : (conditionalKey, .arr items) ∈ entries) (hvariant : items[i]? = some (.obj variant))
      (hv : (k, v) ∈ variant) (hk : k ≠ conditionsKey) (h : Reaches v path part inVariant) :
      Reaches (.obj entries) (.key conditionalKey :: .item i :: .key k :: path) part true

/-- What a part of a template comes out as: resolved, and in a field of a variant pruned as well. -/
def outcome (lookup : Text → Json) (inVariant : Bool) (part : Json) : Json :=
  if inVariant then (resolve lookup part).prune else resolve lookup part

/-- Whether something stays where it comes out: nulls are dropped, and in a variant whatever is empty. -/
def isKept (inVariant : Bool) (v : Json) : Bool :=
  if inVariant then !v.isEmpty else !v.isNull

/-- The path at which a part of a template comes out. -/
inductive ComesOut (lookup : Text → Json) : Json → Json.Path → Json → Json.Path → Bool → Prop where
  | here (v : Json) : ComesOut lookup v [] v [] false
  | item {items : List Json} {i : Nat} {v part : Json} {path path' : Json.Path} {inVariant : Bool}
      (hv : items[i]? = some v) (h : ComesOut lookup v path part path' inVariant) :
      ComesOut lookup (.arr items) (.item i :: path) part
        (.item ((items.take i).countP fun v => (resolved? lookup v).isSome) :: path') inVariant
  | entry {entries : Table Json} {k : Text} {v part : Json} {path path' : Json.Path}
      {inVariant : Bool} (hv : (k, v) ∈ entries) (hk : k = conditionalKey → isList v = false)
      (h : ComesOut lookup v path part path' inVariant) :
      ComesOut lookup (.obj entries) (.key k :: path) part (.key k :: path') inVariant
  | field {entries variant : Table Json} {items : List Json} {i : Nat} {k : Text} {v part : Json}
      {path path' moved : Json.Path} {inVariant : Bool}
      (hitems : (conditionalKey, .arr items) ∈ entries) (hvariant : items[i]? = some (.obj variant))
      (hv : (k, v) ∈ variant) (hk : k ≠ conditionsKey)
      (h : ComesOut lookup v path part path' inVariant)
      (hmoved : (resolve lookup v).Moves path' (outcome lookup inVariant part) moved) :
      ComesOut lookup (.obj entries) (.key conditionalKey :: .item i :: .key k :: path) part
        (.key conditionalKey :: .item (survivorsBefore lookup items i) :: .key k :: moved) true

theorem prune_outcome (lookup : Text → Json) (inVariant : Bool) (part : Json) :
    (outcome lookup inVariant part).prune = outcome lookup true part := by
  cases inVariant with
  | true => exact Json.prune_prune _
  | false => rfl

theorem isNull_eq_false_of_isKept {inVariant : Bool} {v : Json} (h : isKept inVariant v = true) :
    v.isNull = false := by
  cases v with
  | null => cases inVariant <;> cases h
  | _ => rfl

/-- What is kept in a variant would be kept outside of it. -/
theorem isKept_outcome {part : Json} (h : isKept true (outcome lookup true part) = true)
    (inVariant : Bool) : isKept inVariant (outcome lookup inVariant part) = true := by
  cases inVariant with
  | true => exact h
  | false =>
      rw [outcome, if_pos rfl] at h
      rw [outcome, if_neg nofun]
      cases hnull : resolve lookup part with
      | null =>
          rw [hnull] at h
          cases h
      | _ => rfl

theorem isKept_outcome_obj (lookup : Text → Json) (object : Table Json) :
    isKept false (outcome lookup false (.obj object)) = true := by
  rw [outcome, if_neg nofun, isKept, if_neg nofun, isNull_resolve_obj]
  rfl

/-- A part of a template is found in it. -/
theorem Reaches.holds {t part : Json} {path : Json.Path} {inVariant : Bool}
    (h : Reaches t path part inVariant) : t.Holds path part := by
  induction h with
  | here v => exact .here v
  | item hv _ ih => exact .item hv ih
  | entry hv _ _ ih => exact .entry hv ih
  | field hitems hvariant hv _ _ ih => exact .entry hitems (.item hvariant (.entry hv ih))

/-- A part that is kept comes out somewhere, and from there it moves when all is pruned. -/
theorem Reaches.exists_moves {t part : Json} {path : Json.Path} {inVariant : Bool}
    (h : Reaches t path part inVariant) (ht : t.IsProper)
    (hkept : isKept inVariant (outcome lookup inVariant part) = true) :
    ∃ path' moved, ComesOut lookup t path part path' inVariant ∧
      (resolve lookup t).Moves path' (outcome lookup inVariant part) moved := by
  induction h with
  | here v => exact ⟨[], [], .here v, .here _⟩
  | @item items i v _ _ _ hv _ ih =>
      obtain ⟨path', moved, hplace, hmoves⟩ :=
        ih (Json.isProper_arr.mp ht v (List.mem_of_getElem? hv)) hkept
      have hnull := hmoves.holds.isNull_eq_false (isNull_eq_false_of_isKept hkept)
      rw [resolve, resolveItems_eq]
      exact ⟨_, _, .item hv hplace,
        .item (getElem?_filterMap (resolved? lookup) hv (resolved?_of_isNull_eq_false hnull)) hmoves⟩
  | @entry entries k v _ _ _ hv hk _ ih =>
      obtain ⟨hdistinct, hvalues⟩ := Json.isProper_obj.mp ht
      obtain ⟨path', moved, hplace, hmoves⟩ := ih (hvalues _ hv) hkept
      have hnull := hmoves.holds.isNull_eq_false (isNull_eq_false_of_isKept hkept)
      rw [resolve_obj]
      exact ⟨_, _, .entry hv hk hplace, .entry (mem_resolve_obj hdistinct hv hk hnull) hmoves⟩
  | @field entries variant items i k v part path inVariant hitems hvariant hv hk _ ih =>
      obtain ⟨-, hvalues⟩ := Json.isProper_obj.mp ht
      have hlist := Json.isProper_arr.mp (hvalues _ hitems)
      obtain ⟨hdistinct, hfields⟩ := Json.isProper_obj.mp (hlist _ (List.mem_of_getElem? hvariant))
      obtain ⟨path', moved, hplace, hmoves⟩ := ih (hfields _ hv) (isKept_outcome hkept inVariant)
      have hpart : (outcome lookup inVariant part).prune.isEmpty = false := by
        rw [prune_outcome]
        simpa [isKept] using hkept
      have hpruned := hmoves.of_prune hpart
      rw [prune_outcome] at hpruned hpart
      have hvalue := hpruned.holds.isEmpty_eq_false hpart
      -- The value of the field stands in the entry of its variant, which pruning leaves in its place.
      have hget := get?_entryOf_of_mem hdistinct (resolveBase lookup entries) hv hk hvalue
      have hentry := moves_entryOf ht hitems hvariant (survives_of_mem hv hk hvalue)
      exact ⟨_, _, .field hitems hvariant hv hk hplace hmoves,
        hentry.trans (.entry (Table.mem_of_get?_eq_some hget) hpruned)⟩

/-- A part of a template that is kept is found where it comes out. -/
theorem Reaches.comesOut {t part : Json} {path : Json.Path} {inVariant : Bool}
    (h : Reaches t path part inVariant) (ht : t.IsProper)
    (hkept : isKept inVariant (outcome lookup inVariant part) = true) :
    ∃ path', ComesOut lookup t path part path' inVariant ∧
      (resolve lookup t).Holds path' (outcome lookup inVariant part) := by
  obtain ⟨path', _, hplace, hmoves⟩ := h.exists_moves ht hkept
  exact ⟨path', hplace, hmoves.holds⟩

end ArticleExport.Spec
