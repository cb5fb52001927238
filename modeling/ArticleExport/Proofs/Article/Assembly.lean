import ArticleExport.Article.Assembly
import ArticleExport.Proofs.Component.Fragments

/-!
# What an article is assembled from

An article that comes about holds the components that a walk over the content has
yielded, with their anchors, and the entries that the walk has made are among its own.
Under the built-in templates the in-article module is empty and left out.
-/

namespace ArticleExport

/-- The theme that there is at first has no templates. -/
theorem ThemeStore.hasNoTemplates_initial (sections : List Key) :
    (initial.used sections).HasNoTemplates := by
  have hused : initial.used sections = Theme.default := by
    induction sections with
    | nil => rfl
    | cons section_ rest ih => exact ih
  have hvalue : (Theme.default.value Theme.templatesKey).isTruthy = false := by decide +kernel
  rw [hused]
  exact hvalue

namespace Setup

variable {s : Setup} {settings : Settings} {theme : Theme} {root : Node} {info : ArticleInfo}

theorem assemble_eq_ok {r : ExportResult} (h : s.assemble root info = .ok r) :
    ∃ cs a, (s.components root).result = .ok cs ∧
      resolveAnchors s.theme cs (s.components root).ledger.layouts = .ok a ∧
      r = ⟨s.article info (s.components root).ledger a.components a.layouts,
        (s.components root).ledger.bundles, (s.components root).ledger.issues⟩ := by
  obtain ⟨cs, hcs, hrest⟩ := exceptBind_eq_ok h
  obtain ⟨a, ha, hr⟩ := exceptBind_eq_ok hrest
  exact ⟨cs, a, hcs, exceptMapError_eq_ok ha, (Except.ok.inj hr).symm⟩

theorem assemble_of_ok {cs : List Component} {a : Anchoring}
    (hcs : (s.components root).result = .ok cs)
    (ha : resolveAnchors s.theme cs (s.components root).ledger.layouts = .ok a)
    (info : ArticleInfo) :
    s.assemble root info = .ok ⟨s.article info (s.components root).ledger a.components a.layouts,
      (s.components root).ledger.bundles, (s.components root).ledger.issues⟩ := by
  change (s.components root).result.bind _ = _
  rw [hcs]
  change ((resolveAnchors s.theme cs (s.components root).ledger.layouts).mapError _).bind _ = _
  rw [ha]
  rfl

/-- The styles of the markup are all that is entered before the content is looked at. -/
theorem tagStyles_ledger (s : Setup) :
    ∃ styles, s.tagStyles.ledger = { Ledger.empty with textStyles := styles } := by
  rw [tagStyles]
  split
  · dsimp only
    split
    · exact ⟨_, rfl⟩
    · exact ⟨[], rfl⟩
  · exact ⟨[], rfl⟩

/-- Under the built-in templates the in-article module is empty. -/
theorem module_eq (settings : Settings) (htheme : theme.HasNoTemplates) :
    (standard settings theme).module =
      .done { start theme .inArticle (.element "div" [] []) [] with stage := .built } := by
  let c : Component := start theme .inArticle (.element "div" [] []) []
  have hrender := Component.render_of_isBuiltIn (c := c) htheme rfl
    (show Kind.inArticle.knows theme "json" = true from rfl) []
  have hrecipe : c.recipe settings theme [] = [.json "json" []] := by
    change Component.inArticleSteps c theme = [.json "json" []]
    rw [Component.inArticleSteps, hrender]
    rfl
  have hfinish := finish_of_isKnown (c := c) htheme rfl hrecipe rfl
  have hbuild : ((standard settings theme).create .inArticle (.element "div" [] [])).build
      (standard settings theme) = (standard settings theme).finish c [] :=
    make_of_not_isParent (c := c) Bool.false_ne_true (.done [])
  rw [module, hbuild, hfinish]
  rfl

/-- The components of content under the built-in templates are those of the walk, which comes after
the styles of the markup. -/
theorem components_eq (settings : Settings) (htheme : theme.HasNoTemplates) (root : Node) :
    (standard settings theme).components root =
      (standard settings theme).tagStyles.andThen fun _ : Unit =>
        (standard settings theme).walkAll root.children := by
  have hwalk (w : Work (List Component)) :
      (w.andThen fun cs => (standard settings theme).module.andThen fun m =>
        .done (insertModule settings.inArticlePosition m cs)) = w := by
    obtain ⟨l, x⟩ := w
    cases x with
    | error f => rfl
    | ok cs =>
        rw [module_eq settings htheme]
        exact congrArg (fun k => (⟨k, .ok cs⟩ : Work (List Component))) (Ledger.merge_empty l)
  have hstyled : (fun _ : Unit => ((standard settings theme).walkAll root.children).andThen
      fun cs => (standard settings theme).module.andThen fun m =>
        .done (insertModule settings.inArticlePosition m cs)) =
      fun _ => (standard settings theme).walkAll root.children :=
    funext fun _ => hwalk _
  exact congrArg (Work.andThen (standard settings theme).tagStyles) hstyled

/-- The components of content under the built-in templates are those that the walk yields. -/
theorem yields_of_components (htheme : theme.HasNoTemplates) {cs : List Component}
    (h : ((standard settings theme).components root).result = .ok cs) :
    ∃ before l after : Ledger, (standard settings theme).Yields root.children cs l ∧
      ((standard settings theme).components root).ledger = before.merge (l.merge after) := by
  rw [components_eq settings htheme] at h ⊢
  obtain ⟨_, -, hwalk, hledger⟩ := Work.andThen_result_eq_ok h
  refine ⟨(standard settings theme).tagStyles.ledger, _, .empty,
    yields_of_walkAll root.children hwalk, ?_⟩
  rw [Ledger.merge_empty]
  exact hledger

end Setup

end ArticleExport
