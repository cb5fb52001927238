import ArticleExport.Component.Basic
import ArticleExport.Proofs.Article.Ledger

/-!
# Which specs a component finds

The specs of a kind are registered behind those that are there: a table of specs by
name is merged with the kind's own one, and the specs of other kinds do not change.
So a registry may hold the specs of any number of kinds, registered in any order and
any number of times, and a component finds in it what it would find on its own.
-/

namespace ArticleExport

namespace SpecRegistry

theorem specsFor_registerDefault (r : SpecRegistry) (s : Spec) (component : Text) :
    (r.registerDefault s).specsFor component =
      if s.component = component then Table.setIfAbsent s.name s (r.specsFor component)
      else r.specsFor component := by
  rw [registerDefault]
  by_cases hhas : r.has s.component s.name = true
  · rw [if_pos hhas]
    split
    · rename_i heq
      subst heq
      exact (if_pos hhas).symm
    · rfl
  · rw [if_neg hhas, register, specsFor, Table.get?_set]
    split
    · rename_i heq
      subst heq
      have hnew : s.name ∉ (r.specsFor s.component).keys :=
        fun hmem => hhas (Table.has_eq_true_iff.mpr hmem)
      rw [Option.getD_some, Table.set_of_not_mem hnew]
      exact (if_neg hhas).symm
    · rfl

/-- The entries that specs make in the table of their component. -/
def entries (specs : List Spec) : Table Spec := specs.map fun s => (s.name, s)

theorem specsFor_foldl_registerDefault
    {specs : List Spec} {component : Text} (h : ∀ s ∈ specs, s.component = component)
    (r : SpecRegistry) (other : Text) :
    (specs.foldl registerDefault r).specsFor other =
      if component = other then (r.specsFor other).merge (entries specs)
      else r.specsFor other := by
  induction specs generalizing r with
  | nil => simp [entries]
  | cons s specs ih =>
      rw [List.foldl_cons, ih (fun t ht => h t (.tail _ ht)), specsFor_registerDefault,
        h s (.head _)]
      by_cases heq : component = other
      · simp only [if_pos heq]
        rfl
      · simp only [if_neg heq]

end SpecRegistry

namespace Kind

theorem name_injective {j k : Kind} (h : j.name = k.name) : j = k := by
  cases j <;> cases k <;> first | rfl | exact absurd h (by decide)

/-- The specs of a kind belong to it. -/
theorem component_of_mem_specs {k : Kind} {theme : Theme} {s : Spec} (h : s ∈ k.specs theme) :
    s.component = k.name := by
  have hall : (k.specs theme).all (fun s => s.component == k.name) = true := by
    cases k <;> rfl
  exact eq_of_beq (List.all_eq_true.mp hall s h)

/-- The keys of the values for dark mode of which it matters for built-in specs whether they are
set. -/
def darkSwitches : List Text :=
  ["aside_background_color_dark", "aside_border_color_dark", "blockquote_background_color_dark",
    "blockquote_border_color_dark"]

/-- The built-in specs depend on a theme only through these values. -/
theorem specs_congr {theme theme' : Theme}
    (h : ∀ key ∈ darkSwitches, (theme.value key).isTruthy = (theme'.value key).isTruthy)
    (k : Kind) :
    k.specs theme = k.specs theme' := by
  cases k with
  | aside =>
      simp only [specs, asideSpecs, h "aside_background_color_dark" (.head _),
        h "aside_border_color_dark" (.tail _ (.head _))]
  | quote =>
      simp only [specs, quoteSpecs,
        h "blockquote_background_color_dark" (.tail _ (.tail _ (.head _))),
        h "blockquote_border_color_dark" (.tail _ (.tail _ (.tail _ (.head _))))]
  | _ => rfl

/-- A theme that has values for dark backgrounds, or for dark borders, or for neither. -/
def sample (background border : Bool) : Theme :=
  ⟨"Sample", darkSwitches.zip [.bool background, .bool border, .bool background, .bool border]⟩

theorem exists_specs_eq_sample (k : Kind) (theme : Theme) :
    ∃ background border, k.specs theme = k.specs (sample background border) := by
  cases k with
  | aside =>
      exact ⟨(theme.value "aside_background_color_dark").isTruthy,
        (theme.value "aside_border_color_dark").isTruthy, rfl⟩
  | quote =>
      exact ⟨(theme.value "blockquote_background_color_dark").isTruthy,
        (theme.value "blockquote_border_color_dark").isTruthy, rfl⟩
  | _ => exact ⟨false, false, rfl⟩

/-- All built-in specs, those that depend on the theme under every sample. -/
def builtInSpecs : List Spec :=
  bodySpecs ++ headingSpecs ++ dividerSpecs ++ imageSpecs ++ footnotesSpecs ++ inArticleSpecs ++
    [false, true].flatMap fun background => [false, true].flatMap fun border =>
      asideSpecs (sample background border) ++ quoteSpecs (sample background border)

theorem mem_builtInSpecs {k : Kind} {theme : Theme} {s : Spec} (hs : s ∈ k.specs theme) :
    s ∈ builtInSpecs := by
  have hbool (b : Bool) : b ∈ [false, true] := by cases b <;> decide
  have hsample (background border : Bool)
      (h : s ∈ asideSpecs (sample background border) ++ quoteSpecs (sample background border)) :
      s ∈ builtInSpecs :=
    List.mem_append_right _ (List.mem_flatMap.mpr
      ⟨background, hbool _, List.mem_flatMap.mpr ⟨border, hbool _, h⟩⟩)
  have hplain (h : s ∈ bodySpecs ++ headingSpecs ++ dividerSpecs ++ imageSpecs ++ footnotesSpecs ++
      inArticleSpecs) : s ∈ builtInSpecs :=
    List.mem_append_left _ h
  simp only [List.mem_append] at hplain
  obtain ⟨background, border, heq⟩ := exists_specs_eq_sample k theme
  rw [heq] at hs
  cases k with
  | aside => exact hsample background border (List.mem_append_left _ hs)
  | quote => exact hsample background border (List.mem_append_right _ hs)
  | body => exact hplain (.inl (.inl (.inl (.inl (.inl hs)))))
  | heading => exact hplain (.inl (.inl (.inl (.inl (.inr hs)))))
  | divider => exact hplain (.inl (.inl (.inl (.inr hs))))
  | image => exact hplain (.inl (.inl (.inr hs)))
  | footnotes => exact hplain (.inl (.inr hs))
  | inArticle => exact hplain (.inr hs)

/-- The spec that a kind has under a name. -/
theorem mem_specs_of_get?_eq_some
    {k : Kind} {theme : Theme} {spec : Text} {t : Spec}
    (h : Table.get? spec (SpecRegistry.entries (k.specs theme)) = some t) :
    t ∈ k.specs theme ∧ t.name = spec := by
  obtain ⟨u, hu, heq⟩ := List.mem_map.mp (Table.mem_of_get?_eq_some h)
  obtain ⟨hname, rfl⟩ := Prod.mk.inj heq
  exact ⟨hu, hname⟩

/-- A kind's registry has the kind's specs behind those that were given for it. -/
theorem specsFor_registry (k j : Kind) (theme : Theme) (r : SpecRegistry) :
    (k.registry theme r).specsFor j.name =
      if k = j then (r.specsFor j.name).merge (SpecRegistry.entries (k.specs theme))
      else r.specsFor j.name := by
  rw [registry, SpecRegistry.specsFor_foldl_registerDefault fun s => component_of_mem_specs]
  by_cases h : k = j
  · rw [if_pos h, if_pos (congrArg name h)]
  · rw [if_neg h, if_neg fun heq => h (name_injective heq)]

end Kind

end ArticleExport
