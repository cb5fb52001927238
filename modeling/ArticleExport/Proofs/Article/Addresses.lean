import ArticleExport.Proofs.Article.Assembly
import ArticleExport.Proofs.Article.Ledger
import ArticleExport.Publish.Bundles

/-!
# The addresses that an article is bundled with

A picture is bundled under its address before the address is looked at, and an address without a
file name ends the work.  So the bundles of an article that comes about are well formed, under any
templates and specs, and those on the web can be picked out of them.
-/

namespace ArticleExport

/-- Well-formed addresses can be told apart by whether they are on the web. -/
theorem exists_cleanFrom {urls : List Text} (h : ∀ t ∈ urls, ∃ a, Address.read t = .ok a)
    (found : List Text) :
    ∃ cleaned, cleanFrom found urls = .ok cleaned := by
  induction urls generalizing found with
  | nil => exact ⟨found, rfl⟩
  | cons t ts ih =>
      obtain ⟨a, ha⟩ := h t List.mem_cons_self
      obtain ⟨cleaned, hcleaned⟩ := ih (fun u hu => h u (List.mem_cons_of_mem t hu))
        (if a.isWeb && !found.contains t then found ++ [t] else found)
      refine ⟨cleaned, ?_⟩
      rw [cleanFrom, ha]
      exact hcleaned

/-! ## Entries -/

theorem mem_of_mem_foldl_addBundle {as bs : List Text} {t : Text} (h : t ∈ bs.foldl addBundle as) :
    t ∈ as ∨ t ∈ bs := by
  induction bs generalizing as with
  | nil => exact .inl h
  | cons b bs ih =>
      rcases ih h with hmem | hrest
      · rw [addBundle] at hmem
        split at hmem
        · exact .inl hmem
        · rcases List.mem_append.mp hmem with hold | hnew
          · exact .inl hold
          · exact .inr (List.mem_singleton.mp hnew ▸ List.mem_cons_self)
      · exact .inr (List.mem_cons_of_mem b hrest)

namespace Ledger

/-- The addresses of the bundles are well formed. -/
def IsReadable (l : Ledger) : Prop := ∀ t ∈ l.bundles, ∃ a, Address.read t = .ok a

theorem isReadable_of_nil {l : Ledger} (h : l.bundles = []) : l.IsReadable := by
  rw [IsReadable, h]
  exact List.forall_mem_nil _

theorem IsReadable.merge {l m : Ledger} (hl : l.IsReadable) (hm : m.IsReadable) :
    (l.merge m).IsReadable := by
  intro t ht
  rcases mem_of_mem_foldl_addBundle ht with hfirst | hsecond
  · exact hl t hfirst
  · exact hm t hsecond

theorem isReadable_ofBundle {address : Text} (h : ∃ a, Address.read address = .ok a) :
    (ofBundle address).IsReadable := by
  intro t ht
  have hmem : t ∈ [address].foldl addBundle [] := ht
  rcases mem_of_mem_foldl_addBundle hmem with hnil | hmem
  · cases hnil
  · rwa [List.mem_singleton.mp hmem]

end Ledger

/-! ## Components -/

/-- Steps that bundle well-formed addresses enter no others. -/
theorem Making.isReadable_steps {theme : Theme} {c : Component} {steps : List Step}
    (h : ∀ address, Step.bundle address ∈ steps → ∃ a, Address.read address = .ok a) :
    (Making.steps theme c steps).ledger.IsReadable := by
  induction steps generalizing c with
  | nil => exact Ledger.isReadable_of_nil rfl
  | cons step steps ih =>
      rw [Making.steps]
      split
      · rename_i d entered hrun
        refine Ledger.IsReadable.merge ?_ (ih fun address hmem => h address (.tail _ hmem))
        rcases Step.entered_of_run hrun with
          rfl | ⟨name, style, rfl⟩ | ⟨name, layout, rfl⟩ | ⟨name, style, rfl⟩ |
            ⟨address, rfl, rfl⟩
        · exact Ledger.isReadable_of_nil rfl
        · exact Ledger.isReadable_of_nil rfl
        · exact Ledger.isReadable_of_nil rfl
        · exact Ledger.isReadable_of_nil rfl
        · exact Ledger.isReadable_ofBundle (h address (.head _))
      · exact Ledger.isReadable_of_nil rfl

namespace Component

/-- Where steps bundle an address, it is well formed, or they are to stop. -/
def BundlesReadable (steps : List Step) : Prop :=
  ∀ address, Step.bundle address ∈ steps →
    (∃ a, Address.read address = .ok a) ∨ ∃ f, Step.stop f ∈ steps

variable {theme : Theme}

theorem bundlesReadable_of_not_mem {steps : List Step}
    (h : ∀ address, Step.bundle address ∉ steps) :
    BundlesReadable steps :=
  fun address hmem => (h address hmem).elim

/-- Where a component stands beside the flow, its side is the last of its steps. -/
theorem BundlesReadable.beside {steps others : List Step} (hsteps : BundlesReadable steps)
    (hothers : others = steps ∨ ∃ side, others = steps ++ [Step.side side]) :
    BundlesReadable others := by
  obtain rfl | ⟨side, rfl⟩ := hothers
  · exact hsteps
  · intro address hmem
    have hmem' : Step.bundle address ∈ steps := by simpa using hmem
    rcases hsteps address hmem' with hread | ⟨f, hf⟩
    · exact .inl hread
    · exact .inr ⟨f, List.mem_append_left _ hf⟩

theorem bundle_ne_borderStep (address key withBorder withSpec without withoutSpec : Text) :
    Step.bundle address ≠ borderStep theme key withBorder withSpec without withoutSpec := by
  intro h
  rw [borderStep] at h
  split at h <;> cases h

theorem bundle_not_mem_photoSteps (settings : Settings) (n : Node) (url address : Text) :
    Step.bundle address ∉ Setup.photoSteps settings n url := by
  rw [Setup.photoSteps]
  split <;> simp

/-- The address of a photo is bundled before it is looked at; one that is malformed ends the
recipe. -/
theorem bundlesReadable_imageSteps (settings : Settings) (n : Node) :
    BundlesReadable (imageSteps settings n) := by
  rw [imageSteps, ← pictureOf]
  cases pictureOf n with
  | none => exact bundlesReadable_of_not_mem (by simp)
  | some picture =>
      dsimp only
      split
      · exact bundlesReadable_of_not_mem (bundle_not_mem_photoSteps settings n _)
      · intro address hmem
        cases hname : Address.fileName ((picture.get? "src").getD []) with
        | error f => exact .inr ⟨.fault f, .tail _ (.head _)⟩
        | ok name =>
            rw [hname] at hmem
            rcases List.mem_cons.mp hmem with hown | hphoto
            · obtain rfl := Step.bundle.inj hown
              obtain ⟨a, ha, -⟩ := exceptMap_eq_ok hname
              exact .inl ⟨a, ha⟩
            · exact (bundle_not_mem_photoSteps settings n _ address hphoto).elim

/-- Nothing but a photo is bundled. -/
theorem bundlesReadable_recipe (c : Component) (settings : Settings) (parts : List Json) :
    BundlesReadable (c.recipe settings theme parts) := by
  apply BundlesReadable.beside
  case hothers =>
    rw [recipe]
    cases c.variant.side with
    | none => exact .inl rfl
    | some side => exact .inr ⟨side, rfl⟩
  cases c.variant.kind with
  | image => exact bundlesReadable_imageSteps settings c.node
  | aside =>
      refine bundlesReadable_of_not_mem fun address => ?_
      simp [asideSteps, bundle_ne_borderStep]
  | footnotes =>
      refine bundlesReadable_of_not_mem fun address => ?_
      simp only [footnotesSteps]
      split <;> simp
  | quote =>
      refine bundlesReadable_of_not_mem fun address => ?_
      simp only [quoteSteps]
      split
      · split <;> simp [pullquoteSteps]
      · split <;> simp [pullquoteSteps, blockquoteSteps, bundle_ne_borderStep]
  | heading =>
      refine bundlesReadable_of_not_mem fun address => ?_
      simp only [headingSteps]
      split <;> simp
  | divider => exact bundlesReadable_of_not_mem fun address => by simp [dividerSteps]
  | body => exact bundlesReadable_of_not_mem fun address => by simp [bodySteps]
  | inArticle =>
      refine bundlesReadable_of_not_mem fun address => ?_
      simp only [inArticleSteps]
      split <;> simp

end Component

namespace Setup

variable {s : Setup}

/-- A component that is finished has bundled well-formed addresses. -/
theorem isReadable_finish {c : Component} {parts : List Json}
    (h : (s.finish c parts).failure = none) :
    (s.finish c parts).ledger.IsReadable := by
  refine Making.isReadable_steps fun address hmem => ?_
  rcases Component.bundlesReadable_recipe c s.settings parts address hmem with hread | ⟨f, hstop⟩
  · exact hread
  · exact (steps_failure_of_stop hstop h).elim

theorem Builds.isReadable
    {v : Variant} {n : Node} {parts : List Component} {c : Component} {l : Ledger}
    (h : s.Builds v n parts c l) :
    l.IsReadable := by
  rw [Builds] at h
  have hledger := isReadable_finish (congrArg Making.failure h)
  rwa [h] at hledger

theorem isReadable_of_yields {ns : List Node} {cs : List Component} {l : Ledger}
    (h : s.Yields ns cs l) :
    l.IsReadable := by
  induction h with
  | nil => exact Ledger.isReadable_of_nil rfl
  | cons first rest ih ih' => exact ih.merge ih'
  | blank isText dropped => exact Ledger.isReadable_of_nil rfl
  | loose visible inText builds => exact builds.isReadable
  | unsupported isElement unmatched tag => exact Ledger.isReadable_of_nil rfl
  | inside isElement unmatched supported notInText children ih => exact ih
  | plain isElement matched isPlain builds => exact builds.isReadable
  | parent isElement matched isParent children builds ih => exact ih.merge builds.isReadable

theorem isReadable_andThen {α β : Type} {w : Work α} {k : α → Work β} {b : β}
    (h : (w.andThen k).result = .ok b) (hw : ∀ a, w.result = .ok a → w.ledger.IsReadable)
    (hk : ∀ a, (k a).result = .ok b → (k a).ledger.IsReadable) :
    (w.andThen k).ledger.IsReadable := by
  obtain ⟨a, ha, hb, hledger⟩ := Work.andThen_result_eq_ok h
  rw [hledger]
  exact (hw a ha).merge (hk a hb)

theorem isReadable_module {module : Component} (h : s.module.result = .ok module) :
    s.module.ledger.IsReadable := by
  have hmodule : s.module = (s.finish (s.create .inArticle (.element "div" [] [])) []).toWork :=
    congrArg Making.toWork
      (make_of_not_isParent (c := s.create .inArticle (.element "div" [] []))
        Bool.false_ne_true (.done []))
  rw [hmodule] at h ⊢
  exact isReadable_finish (congrArg Making.failure (finish_of_toWork h))

/-- The bundles of an article that comes about are well-formed addresses. -/
theorem exists_read_of_mem_bundles {root : Node} {info : ArticleInfo} {r : ExportResult}
    (h : s.assemble root info = .ok r) {t : Text} (ht : t ∈ r.bundles) :
    ∃ a, Address.read t = .ok a := by
  obtain ⟨cs, a, hcs, -, rfl⟩ := assemble_eq_ok h
  have hstyles : s.tagStyles.ledger.IsReadable := by
    obtain ⟨styles, hstyles⟩ := s.tagStyles_ledger
    rw [hstyles]
    exact Ledger.isReadable_of_nil rfl
  have hreadable : (s.components root).ledger.IsReadable := by
    refine isReadable_andThen hcs (fun _ _ => hstyles) fun _ hwalked => ?_
    refine isReadable_andThen hwalked
      (fun _ hwalk => isReadable_of_yields (yields_of_walkAll root.children hwalk))
      fun _ hplaced => ?_
    exact isReadable_andThen hplaced (fun _ hmodule => isReadable_module hmodule)
      fun _ _ => Ledger.isReadable_of_nil rfl
  exact hreadable t ht

end Setup

end ArticleExport
