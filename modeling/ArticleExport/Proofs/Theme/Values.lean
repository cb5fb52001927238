import ArticleExport.Proofs.Table
import ArticleExport.Theme.Basic

/-!
# Values of a theme, all together and one by one

The values of a theme can be looked up one by one, or taken all together over the default ones.  The
two agree on every key but those that the theme sets to null.  Such a key counts as not set where it
is looked up, and has its default value there; among all values it has the null.
-/

namespace ArticleExport.Theme

variable {t : Theme} {key : Text}

/-- A key is among all values of a theme just if a look-up gives something, and with the same value. -/
def AgreesOn (t : Theme) (key : Text) : Prop :=
  ∀ v, Table.get? key t.allValues = some v ↔ t.value key = v ∧ v ≠ .null

theorem get?_defaults_ne_null (key : Text) : Table.get? key defaults ≠ some .null := by
  have hall : ∀ e ∈ defaults, e.2 ≠ .null := by decide
  intro h
  exact hall _ (Table.mem_of_get?_eq_some h) rfl

/-! ## Looking up -/

theorem find?_of_none (h : Table.get? key t.own = none) : t.find? key = Table.get? key defaults := by
  rw [find?, h]

theorem find?_of_null (h : Table.get? key t.own = some .null) :
    t.find? key = Table.get? key defaults := by
  rw [find?, h]
  rfl

theorem find?_of_ne_null {v : Json} (h : Table.get? key t.own = some v) (hv : v ≠ .null) :
    t.find? key = some v := by
  have hnull : v.isNull = false := by
    cases v with
    | null => exact absurd rfl hv
    | _ => rfl
  rw [find?, h]
  exact if_neg (Bool.eq_false_iff.mp hnull)

/-- A null is never found. -/
theorem find?_ne_null (t : Theme) (key : Text) : t.find? key ≠ some .null := by
  cases hown : Table.get? key t.own with
  | none =>
      rw [find?_of_none hown]
      exact get?_defaults_ne_null key
  | some v =>
      by_cases hv : v = .null
      · subst hv
        rw [find?_of_null hown]
        exact get?_defaults_ne_null key
      · rw [find?_of_ne_null hown hv]
        exact fun h => hv (Option.some.inj h)

theorem find?_eq_some_iff {v : Json} : t.find? key = some v ↔ t.value key = v ∧ v ≠ .null := by
  rw [value]
  constructor
  · intro h
    refine ⟨by rw [h, Option.getD_some], ?_⟩
    rintro rfl
    exact find?_ne_null t key h
  · rintro ⟨rfl, hv⟩
    cases hfind : t.find? key with
    | none => exact absurd (by rw [hfind, Option.getD_none]) hv
    | some w => rw [Option.getD_some]

/-! ## All values -/

/-- Among all values a key has what the theme says of it, null or not, and else its default value. -/
theorem get?_allValues (h : Table.Distinct t.own) (key : Text) :
    Table.get? key t.allValues = (Table.get? key t.own).or (Table.get? key defaults) :=
  Table.get?_update h key defaults

theorem agreesOn_iff_get?_eq : t.AgreesOn key ↔ Table.get? key t.allValues = t.find? key := by
  rw [AgreesOn]
  constructor
  · intro h
    refine Option.ext fun v => ?_
    rw [h v, find?_eq_some_iff]
  · intro h v
    rw [h, find?_eq_some_iff]

theorem agreesOn_iff (h : Table.Distinct t.own) :
    t.AgreesOn key ↔ Table.get? key t.own ≠ some .null := by
  rw [agreesOn_iff_get?_eq, get?_allValues h]
  cases hown : Table.get? key t.own with
  | none =>
      rw [find?_of_none hown, Option.none_or]
      exact iff_of_true rfl nofun
  | some v =>
      rw [Option.some_or]
      by_cases hv : v = .null
      · subst hv
        refine iff_of_false (fun heq => ?_) (fun hne => hne rfl)
        exact find?_ne_null t key heq.symm
      · rw [find?_of_ne_null hown hv]
        exact iff_of_true rfl fun heq => hv (Option.some.inj heq)

/-- All values of a theme and its look-ups agree on a key just if the theme does not set it to null, so
they agree throughout just if it sets no key to null.  A key that it does set to null has its default
value where it is looked up, if there is one, and is among all values with the null. -/
theorem allValues_agrees_with_value (t : Theme) (h : Table.Distinct t.own) :
    (∀ key, t.AgreesOn key ↔ Table.get? key t.own ≠ some .null) ∧
      ((∀ key, t.AgreesOn key) ↔ ∀ e ∈ t.own, e.2 ≠ .null) ∧
      ∀ key, Table.get? key t.own = some .null →
        Table.get? key t.allValues = some .null ∧
          t.value key = (Table.get? key defaults).getD .null := by
  refine ⟨fun key => agreesOn_iff h, ?_, ?_⟩
  · constructor
    · rintro hall ⟨key, v⟩ he rfl
      exact (agreesOn_iff h).mp (hall key) (Table.get?_of_mem h he)
    · intro hall key
      refine (agreesOn_iff h).mpr fun hnull => ?_
      exact hall _ (Table.mem_of_get?_eq_some hnull) rfl
  · intro key hnull
    refine ⟨?_, by rw [value, find?_of_null hnull]⟩
    rw [get?_allValues h, hnull, Option.some_or]

/-- A theme that sets a key of its own, a nested value with a null in it, and two keys to null. -/
def dusk : Theme where
  name := "Dusk"
  own := [("body_size", .int 20), ("body_color", .null), ("extra", .obj [("deep", .arr [.null])]),
    ("glow", .null)]

theorem allValues_agrees_with_value_of_dusk :
    Table.Distinct dusk.own ∧
      (dusk.AgreesOn "body_size" ∧ dusk.AgreesOn "extra" ∧ dusk.AgreesOn "body_font" ∧
        dusk.AgreesOn "shade") ∧
      Table.get? "body_color" dusk.allValues = some .null ∧ dusk.value "body_color" = "#4f4f4f" ∧
      Table.get? "glow" dusk.allValues = some .null ∧ dusk.value "glow" = .null := by
  have hdistinct : Table.Distinct dusk.own := by decide
  obtain ⟨hagrees, -, hnull⟩ := allValues_agrees_with_value dusk hdistinct
  obtain ⟨hcolor, hcolor'⟩ := hnull "body_color" rfl
  obtain ⟨hglow, hglow'⟩ := hnull "glow" rfl
  refine ⟨hdistinct, ⟨?_, ?_, ?_, ?_⟩, hcolor, hcolor'.trans ?_, hglow, hglow'.trans ?_⟩
  · exact (hagrees _).mpr (by decide)
  · exact (hagrees _).mpr (by decide)
  · exact (hagrees _).mpr (by decide)
  · exact (hagrees _).mpr (by decide)
  · decide +kernel
  · decide +kernel

/-- A colour that is set to null is missing among all values, though a look-up gives the default. -/
theorem not_agreesOn_color_of_dusk :
    dusk.value "body_color" = "#4f4f4f" ∧
      Table.get? "body_color" dusk.allValues ≠ some "#4f4f4f" ∧ ¬ dusk.AgreesOn "body_color" := by
  have hvalue : dusk.value "body_color" = "#4f4f4f" := by decide +kernel
  have hnull : Table.get? "body_color" dusk.allValues = some .null := by decide +kernel
  refine ⟨hvalue, ?_, ?_⟩
  · rw [hnull]
    decide
  · intro hagrees
    exact ((hagrees .null).mp hnull).2 rfl

end ArticleExport.Theme
