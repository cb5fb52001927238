import ArticleExport.Proofs.Spec.Resolution
import Mathlib.Data.List.Forall2

/-!
# Values and themes that make no difference

A spec resolves alike under all values and themes that supply the same for the placeholders
of its template.  So it does not matter how a value's key is marked, nor what a theme says
about keys that are no placeholders or have a value already.
-/

namespace ArticleExport.Spec

variable {values values' : Table Json} {theme theme' : Theme}

/-- Values count alike under keys that differ in their marks only. -/
theorem unmarked_eq_of_forall₂
    (h : List.Forall₂ (fun e f => stripMarks e.1 = stripMarks f.1 ∧ e.2 = f.2) values values') :
    unmarked values = unmarked values' := by
  have hsame : List.Forall₂ Eq (values.map fun e => (stripMarks e.1, e.2))
      (values'.map fun e => (stripMarks e.1, e.2)) := by
    rw [List.forall₂_map_left_iff, List.forall₂_map_right_iff]
    exact h.imp fun _ _ hentry => Prod.ext hentry.1 hentry.2
  rw [List.forall₂_eq_eq_eq] at hsame
  rw [unmarked, unmarked, hsame]

/-- A key with a value of its own is not looked up in the theme. -/
theorem source_eq_of_value_eq {key : Text}
    (h : Table.get? key values = none → theme.value key = theme'.value key) :
    source values theme key = source values theme' key := by
  rw [source, source]
  cases hget : Table.get? key values with
  | none => exact h hget
  | some _ => rfl

/-- Only the templates of a theme decide which template counts. -/
theorem effective_eq_of_value_eq (s : Spec)
    (h : theme.value Theme.templatesKey = theme'.value Theme.templatesKey) :
    s.effective theme = s.effective theme' := by
  rw [effective, effective, Theme.template?, Theme.template?, h]

theorem substitute_congr (s : Spec) (htemplate : s.effective theme = s.effective theme')
    (hlookup : ∀ template, s.effective theme = .ok template →
      AgreeOn (source (unmarked values) theme) (source (unmarked values') theme') (tokens template)) :
    s.substitute values theme = s.substitute values' theme' := by
  cases heffective : s.effective theme with
  | error f =>
      rw [substitute, substitute, ← htemplate, heffective]
      rfl
  | ok template =>
      rw [substitute_of_effective heffective, substitute_of_effective (htemplate ▸ heffective),
        resolve_congr (hlookup template heffective)]

/-- A spec resolves alike when the template that counts is the same and each of its placeholders is
supplied with the same; so the marks of keys make no difference, nor does any other value of a theme. -/
theorem substitute_depends_on_tokens (s : Spec) :
    (∀ values values' theme theme', s.effective theme = s.effective theme' →
      (∀ template, s.effective theme = .ok template → ∀ key ∈ tokens template,
        source (unmarked values) theme key = source (unmarked values') theme' key) →
      s.substitute values theme = s.substitute values' theme') ∧
    (∀ values values' theme,
      List.Forall₂ (fun e f => stripMarks e.1 = stripMarks f.1 ∧ e.2 = f.2) values values' →
      s.substitute values theme = s.substitute values' theme) ∧
    (∀ values theme theme', theme.value Theme.templatesKey = theme'.value Theme.templatesKey →
      (∀ template, s.effective theme = .ok template → ∀ key ∈ tokens template,
        Table.get? key (unmarked values) = none → theme.value key = theme'.value key) →
      s.substitute values theme = s.substitute values theme') := by
  refine ⟨fun _ _ _ _ => substitute_congr s, ?_, ?_⟩
  · intro values values' theme hmarks
    refine substitute_congr s rfl ?_
    intro template _ key _
    rw [unmarked_eq_of_forall₂ hmarks]
  · intro values theme theme' htemplates hvalues
    refine substitute_congr s (effective_eq_of_value_eq s htemplates) ?_
    intro template htemplate key hkey
    exact source_eq_of_value_eq (hvalues template htemplate key hkey)

/-- A template with placeholders in an object, in a variant and in the conditions of that variant. -/
def sash : Json := .obj [("text", "#text#"), ("tone", "#tone#"),
  ("conditional", .arr [.obj [("tone", "#dark#"), ("conditions", .obj [("scheme", "#scheme#")])]])]

/-- Values for some placeholders of `sash`, and a theme with the tone. -/
def sashValues : Table Json := [("#text#", "Hi"), ("dark", "black"), ("scheme", .null)]

/-- A theme with a tone. -/
def sashTheme (tone : Json) : Theme := ⟨"Sash", [("json_templates", .obj []), ("tone", tone)]⟩

theorem substitute_depends_on_tokens_of_sash :
    (∀ key ∈ tokens sash, source (unmarked sashValues) (sashTheme "red") key =
      source (unmarked (("tone", "red") :: ("size", .int 2) :: sashValues)) (sashTheme "blue") key) ∧
    (Spec.mk "body" "json" "JSON" sash).substitute sashValues (sashTheme "red") =
      (Spec.mk "body" "json" "JSON" sash).substitute
        (("tone", "red") :: ("size", .int 2) :: sashValues) (sashTheme "blue") := by
  have hlookup : ∀ key ∈ tokens sash, source (unmarked sashValues) (sashTheme "red") key =
      source (unmarked (("tone", "red") :: ("size", .int 2) :: sashValues)) (sashTheme "blue") key := by
    decide +kernel
  refine ⟨hlookup, (substitute_depends_on_tokens _).1 _ _ _ _ rfl ?_⟩
  intro template htemplate
  obtain rfl : sash = template := Except.ok.inj htemplate
  exact hlookup

end ArticleExport.Spec
