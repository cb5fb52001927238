import ArticleExport.Proofs.Component.Steps
import ArticleExport.Proofs.Walk.Yields

/-!
# Walks that share their context

The components of a run have one context in common: they register their specs in it,
look specs up in it and enter styles, layouts, bundles and issues in it, in the order in
which they are made.  A walk described in this way comes to the same components and to
the same entries as the walk in which each component has specs and entries of its own.

The invariant on the context is that the specs of each kind are either the given ones
or the given ones with those of the kind behind them.  The latter holds for a kind
from its first component on, so no component can tell which others came before it.
-/

namespace ArticleExport

/-! ## Work on a shared context -/

/-- What the components of a run share. -/
structure RunContext where
  /-- The specs that are registered so far. -/
  specs : SpecRegistry
  /-- What is entered so far. -/
  ledger : Ledger

/-- Work on the context of a run; what was changed before a failure stays changed. -/
def Shared (α : Type) : Type := RunContext → Except Failure α × RunContext

namespace Shared

variable {α β : Type}

/-- A result that leaves the context alone. -/
def done (a : α) : Shared α := fun x => (.ok a, x)

/-- A failure that leaves the context alone. -/
def failed (f : Failure) : Shared α := fun x => (.error f, x)

/-- Work that goes on with the result of other work, in the context that it left. -/
def andThen (p : Shared α) (k : α → Shared β) : Shared β := fun x =>
  match p x with
  | (.ok a, x) => k a x
  | (.error f, x) => (.error f, x)

instance : Monad Shared where
  pure := done
  bind := andThen

theorem bind_of_ok {p : Shared α} {k : α → Shared β} {x y : RunContext} {a : α}
    (h : p x = (.ok a, y)) :
    (p >>= k) x = k a y := by
  change andThen p k x = k a y
  rw [andThen, h]

theorem bind_of_error {p : Shared α} {k : α → Shared β} {x y : RunContext} {f : Failure}
    (h : p x = (.error f, y)) :
    (p >>= k) x = (.error f, y) := by
  change andThen p k x = (.error f, y)
  rw [andThen, h]

theorem bind_eq_ok {p : Shared α} {k : α → Shared β} {x z : RunContext} {b : β}
    (h : (p >>= k) x = (.ok b, z)) :
    ∃ a y, p x = (.ok a, y) ∧ k a y = (.ok b, z) := by
  cases hp : p x with
  | mk r y =>
      cases r with
      | error f =>
          rw [bind_of_error hp] at h
          cases h
      | ok a => exact ⟨a, y, rfl, (bind_of_ok hp).symm.trans h⟩

end Shared

namespace Setup

/-- The context in which a run begins. -/
def freshContext (s : Setup) : RunContext := ⟨s.specs, .empty⟩

/-- A component before it is built; the specs of its kind are registered for the run. -/
def createShared (s : Setup) (v : Variant) (n : Node) : Shared Component := fun x =>
  (.ok (s.create v n).bare, { x with specs := v.kind.registry s.theme x.specs })

/-- Carries out a step by the specs of the run, and enters what it yields. -/
def stepShared (s : Setup) (c : Component) (step : Step) : Shared Component := fun x =>
  match step.run s.theme (c.withSpecs x.specs) with
  | .ok (c, entered) => (.ok c.bare, { x with ledger := x.ledger.merge entered })
  | .error f => (.error f, x)

/-- Carries out steps one after the other, up to the first one that fails. -/
def stepsShared (s : Setup) (c : Component) : List Step → Shared Component
  | [] => pure c
  | step :: steps => do
    let c ← s.stepShared c step
    s.stepsShared c steps

/-- The steps that make a component around parts, by the specs of the run. -/
def recipeShared (s : Setup) (c : Component) (parts : List Json) : Shared (List Step) := fun x =>
  (.ok ((c.withSpecs x.specs).recipe s.settings s.theme parts), x)

/-- Carries out the steps of a component, once the components inside it are there. -/
def finishShared (s : Setup) (c : Component) (parts : List Json) : Shared Component := do
  let steps ← s.recipeShared c parts
  let c ← s.stepsShared c steps
  return { c with stage := .built }

/-- The components inside a component; only a parent has any. -/
def partsShared (s : Setup) (c : Component) (content : Shared (List Component)) :
    Shared (List Component) :=
  if c.variant.isParent then if s.factory.isNone then .failed noFactory else content
  else pure []

/-- A built component of a variant for a node, with the components for its content in it. -/
def buildShared (s : Setup) (v : Variant) (n : Node) (content : Shared (List Component)) :
    Shared Component := do
  let c ← s.createShared v n
  let parts ← s.partsShared c content
  s.finishShared { c with parts := parts.map fun p => p.variant.kind }
    (parts.map Component.fragment)

/-- A built component for a node that belongs into text. -/
def buildLooseShared (s : Setup) (n : Node) : Shared (List Component) := do
  let c ← s.buildShared .body (.element "p" [] [n]) (pure [])
  return [c]

/-- Enters content that no component can show. -/
def issueShared (tag : Text) : Shared (List Component) := fun x =>
  (.ok [], { x with ledger := x.ledger.merge (.ofIssue tag) })

mutual

/-- The components of a node, made in the context of the run. -/
def walkShared (s : Setup) : Node → Shared (List Component)
  | ⟨tag, attributes, children, text, claimed⟩ =>
    let n : Node := ⟨tag, attributes, children, text, claimed⟩
    if n.isText then
      if n.hasVisibleText && s.keepsLooseText then s.buildLooseShared n else pure []
    else match s.match? n with
      | some (v, m) => do
        let c ← s.buildShared v m (walkAllShared s children)
        return [c]
      | none =>
        if unsupportedTags.contains tag then issueShared tag
        else if inlineTags.contains tag && n.hasVisibleText && s.keepsLooseText then
          s.buildLooseShared n
        else walkAllShared s children

/-- The components of nodes, made one after the other in the context of the run. -/
def walkAllShared (s : Setup) : List Node → Shared (List Component)
  | [] => pure []
  | n :: ns => do
    let cs ← walkShared s n
    let ds ← walkAllShared s ns
    return cs ++ ds

end

end Setup

/-! ## The invariant on the context -/

namespace RunContext

/-- The specs of a kind are registered behind those that were given. -/
def Holds (s : Setup) (k : Kind) (x : RunContext) : Prop :=
  x.specs.specsFor k.name = (k.registry s.theme s.specs).specsFor k.name

/-- The specs of each kind are those that were given, or registered behind these. -/
def Sound (s : Setup) (x : RunContext) : Prop :=
  ∀ k : Kind, x.specs.specsFor k.name = s.specs.specsFor k.name ∨ x.Holds s k

/-- What a run has made of its context when it has entered a ledger. -/
structure Leads (s : Setup) (x y : RunContext) (entered : Ledger) : Prop where
  sound : y.Sound s
  holds : ∀ k, x.Holds s k → y.Holds s k
  ledger : y.ledger = x.ledger.merge entered

variable {s : Setup} {x y z : RunContext}

theorem Leads.refl (h : x.Sound s) : x.Leads s x .empty where
  sound := h
  holds _ hk := hk
  ledger := (Ledger.merge_empty _).symm

theorem Leads.trans {l m : Ledger} (hxy : x.Leads s y l) (hyz : y.Leads s z m) :
    x.Leads s z (l.merge m) where
  sound := hyz.sound
  holds k hk := hyz.holds k (hxy.holds k hk)
  ledger := by rw [hyz.ledger, hxy.ledger, Ledger.merge_assoc]

theorem Leads.trans_of_empty {l : Ledger} (hxy : x.Leads s y .empty) (hyz : y.Leads s z l) :
    x.Leads s z l where
  sound := hyz.sound
  holds k hk := hyz.holds k (hxy.holds k hk)
  ledger := by rw [hyz.ledger, hxy.ledger, Ledger.merge_empty]

theorem Leads.entering (h : x.Sound s) (l : Ledger) :
    x.Leads s { x with ledger := x.ledger.merge l } l where
  sound := h
  holds _ hk := hk
  ledger := rfl

theorem sound_fresh (s : Setup) : s.freshContext.Sound s := fun _ => .inl rfl

/-- Whatever came before a component, it finds the specs that it would find on its own. -/
theorem specsFor_registry_of_sound (h : x.Sound s) (k : Kind) :
    (k.registry s.theme x.specs).specsFor k.name =
      (k.registry s.theme s.specs).specsFor k.name := by
  rw [Kind.specsFor_registry, Kind.specsFor_registry, if_pos rfl, if_pos rfl]
  rcases h k with hgiven | hheld
  · rw [hgiven]
  · rw [hheld, Kind.specsFor_registry, if_pos rfl, Table.merge_merge_self]

/-- Registering the specs of a kind keeps the invariant, and makes it hold the kind. -/
theorem leads_register (h : x.Sound s) (k : Kind) :
    x.Leads s { x with specs := k.registry s.theme x.specs } .empty where
  sound j := by
    by_cases hkj : k = j
    · subst hkj
      exact .inr (specsFor_registry_of_sound h k)
    · rw [Holds, Kind.specsFor_registry k, if_neg hkj]
      exact h j
  holds j hj := by
    by_cases hkj : k = j
    · subst hkj
      exact specsFor_registry_of_sound h k
    · rw [Holds, Kind.specsFor_registry k, if_neg hkj]
      exact hj
  ledger := (Ledger.merge_empty _).symm

end RunContext

/-! ## The walk in a shared context comes to the same -/

/-- Work on a sound context yields the image of what other work yields, and enters the same. -/
def Agrees {α β : Type} (s : Setup) (f : β → α) (p : Shared α) (w : Work β) : Prop :=
  ∀ x : RunContext, x.Sound s → ∃ y, p x = (w.result.map f, y) ∧ x.Leads s y w.ledger

namespace Agrees

variable {α α' β β' : Type} {s : Setup} {f : β → α} {g : β' → α'}

theorem done (b : β) : Agrees s f (pure (f b)) (.done b) :=
  fun x hx => ⟨x, rfl, .refl hx⟩

theorem andThen
    {p : Shared α} {w : Work β} {k : α → Shared α'} {l : β → Work β'}
    (hp : Agrees s f p w) (hk : ∀ b, Agrees s g (k (f b)) (l b)) :
    Agrees s g (p >>= k) (w.andThen l) := by
  intro x hx
  obtain ⟨y, hrun, hxy⟩ := hp x hx
  cases hw : w.result with
  | error e =>
      rw [hw] at hrun
      rw [Work.andThen_of_error hw]
      exact ⟨y, Shared.bind_of_error hrun, hxy⟩
  | ok b =>
      obtain ⟨z, hthen, hyz⟩ := hk b y hxy.sound
      rw [hw] at hrun
      rw [Work.andThen_of_ok hw]
      exact ⟨z, (Shared.bind_of_ok hrun).trans hthen, hxy.trans hyz⟩

end Agrees

namespace Setup

variable {s : Setup}

theorem stepShared_of_ok
    {c d : Component} {x : RunContext} (h : x.specs.specsFor c.name = c.specs.specsFor c.name)
    {step : Step} {entered : Ledger} (hrun : step.run s.theme c = .ok (d, entered)) :
    s.stepShared c.bare step x = (.ok d.bare, { x with ledger := x.ledger.merge entered }) := by
  have hshared := Step.run_withSpecs h s.theme step
  rw [hrun] at hshared
  simp only [stepShared, show c.bare.withSpecs x.specs = c.withSpecs x.specs from rfl, hshared]
  rfl

theorem stepShared_of_error
    {c : Component} {x : RunContext} (h : x.specs.specsFor c.name = c.specs.specsFor c.name)
    {step : Step} {f : Failure} (hrun : step.run s.theme c = .error f) :
    s.stepShared c.bare step x = (.error f, x) := by
  have hshared := Step.run_withSpecs h s.theme step
  rw [hrun] at hshared
  simp only [stepShared, show c.bare.withSpecs x.specs = c.withSpecs x.specs from rfl, hshared]
  rfl

/-- Steps come to the same where the context has the specs that the component looks up. -/
theorem stepsShared_apply
    {c : Component} {x : RunContext} (h : x.specs.specsFor c.name = c.specs.specsFor c.name)
    (steps : List Step) :
    s.stepsShared c.bare steps x =
      ((Making.steps s.theme c steps).toWork.result.map Component.bare,
        { x with ledger := x.ledger.merge (Making.steps s.theme c steps).ledger }) := by
  induction steps generalizing c x with
  | nil =>
      rw [Making.steps, Ledger.merge_empty]
      rfl
  | cons step steps ih =>
      cases hrun : step.run s.theme c with
      | error f =>
          rw [Making.steps, hrun, stepsShared, Ledger.merge_empty]
          exact Shared.bind_of_error (stepShared_of_error h hrun)
      | ok done =>
          obtain ⟨d, entered⟩ := done
          have hd := Step.eq_of_run hrun
          have hname : d.name = c.name := by rw [hd]; rfl
          have hspecs : d.specs = c.specs := by rw [hd]
          have hsame : x.specs.specsFor d.name = d.specs.specsFor d.name := by
            rw [hname, hspecs]
            exact h
          refine (Shared.bind_of_ok (stepShared_of_ok h hrun)).trans
            ((ih (x := { x with ledger := x.ledger.merge entered }) hsame).trans ?_)
          rw [Making.steps, hrun, Ledger.merge_assoc]
          rfl

theorem finishShared_apply
    {c : Component} {x : RunContext} (h : x.specs.specsFor c.name = c.specs.specsFor c.name)
    (parts : List Json) :
    s.finishShared c.bare parts x =
      ((s.finish c parts).toWork.result.map Component.bare,
        { x with ledger := x.ledger.merge (s.finish c parts).ledger }) := by
  have hrecipe : s.recipeShared c.bare parts x = (.ok (c.recipe s.settings s.theme parts), x) := by
    rw [← Component.recipe_withSpecs h]
    rfl
  have hsteps := stepsShared_apply (s := s) h (c.recipe s.settings s.theme parts)
  refine (Shared.bind_of_ok hrecipe).trans ?_
  rw [finish]
  cases hend : (Making.steps s.theme c (c.recipe s.settings s.theme parts)).failure with
  | some f =>
      simp only [Making.toWork, hend] at hsteps ⊢
      exact Shared.bind_of_error hsteps
  | none =>
      simp only [Making.toWork, hend] at hsteps ⊢
      exact Shared.bind_of_ok hsteps

theorem finishShared_leads
    {c : Component} {x : RunContext} (hx : x.Sound s)
    (h : x.specs.specsFor c.name = c.specs.specsFor c.name) (parts : List Json) :
    ∃ y, s.finishShared c.bare parts x = ((s.finish c parts).toWork.result.map Component.bare, y) ∧
      x.Leads s y (s.finish c parts).ledger :=
  ⟨_, finishShared_apply h parts, .entering hx _⟩

/-- A component is built alike whatever was built before it in the same run. -/
theorem agrees_buildShared
    {p : Shared (List Component)} {w : Work (List Component)}
    (hcontent : Agrees s (List.map Component.bare) p w) (v : Variant) (n : Node) :
    Agrees s Component.bare (s.buildShared v n p) ((s.create v n).make s w).toWork := by
  intro x hx
  have hcreate : s.createShared v n x =
      (.ok (s.create v n).bare, { x with specs := v.kind.registry s.theme x.specs }) := rfl
  have hregister := RunContext.leads_register hx v.kind
  have hheld : RunContext.Holds s v.kind { x with specs := v.kind.registry s.theme x.specs } :=
    RunContext.specsFor_registry_of_sound hx v.kind
  by_cases hparent : v.isParent
  · by_cases hfactory : s.factory.isNone
    · have hparts : s.partsShared (s.create v n).bare p = .failed noFactory :=
        (if_pos hparent).trans (if_pos hfactory)
      rw [make_of_no_factory (c := s.create v n) hparent hfactory]
      refine ⟨_, (Shared.bind_of_ok hcreate).trans ?_, hregister⟩
      exact Shared.bind_of_error (congrFun hparts _)
    · have hparts : s.partsShared (s.create v n).bare p = p :=
        (if_pos hparent).trans (if_neg hfactory)
      obtain ⟨y, hrun, hleads⟩ := hcontent _ hregister.sound
      cases hw : w.result with
      | error f =>
          rw [hw] at hrun
          rw [make_of_error (c := s.create v n) hparent hfactory hw]
          refine ⟨y, (Shared.bind_of_ok hcreate).trans ?_, hregister.trans_of_empty hleads⟩
          exact Shared.bind_of_error ((congrFun hparts _).trans hrun)
      | ok parts =>
          rw [hw] at hrun
          rw [make_of_ok (c := s.create v n) hparent hfactory hw]
          obtain ⟨z, hfinish, hentered⟩ := finishShared_leads
            (c := { s.create v n with parts := parts.map fun p => p.variant.kind }) hleads.sound
            (hleads.holds _ hheld) (parts.map Component.fragment)
          refine ⟨z, (Shared.bind_of_ok hcreate).trans ?_,
            (hregister.trans_of_empty hleads).trans hentered⟩
          refine (Shared.bind_of_ok ((congrFun hparts _).trans hrun)).trans ?_
          rw [List.map_map, List.map_map]
          exact hfinish
  · have hparts : s.partsShared (s.create v n).bare p = pure [] := if_neg hparent
    rw [make_of_not_isParent (c := s.create v n) hparent]
    obtain ⟨z, hfinish, hentered⟩ :=
      finishShared_leads (c := s.create v n) hregister.sound hheld []
    refine ⟨z, (Shared.bind_of_ok hcreate).trans ?_, hregister.trans_of_empty hentered⟩
    exact (Shared.bind_of_ok (congrFun hparts _)).trans hfinish

theorem agrees_singleton
    {p : Shared Component} {w : Work Component} (h : Agrees s Component.bare p w) :
    Agrees s (List.map Component.bare) (do let c ← p; return [c]) (w.andThen fun c => .done [c]) :=
  h.andThen fun c => .done [c]

theorem agrees_buildLooseShared (n : Node) :
    Agrees s (List.map Component.bare) (s.buildLooseShared n) (s.buildLoose n) :=
  agrees_singleton (agrees_buildShared (.done []) .body (.element "p" [] [n]))

theorem agrees_buildPlain
    {p : Shared (List Component)} {w : Work (List Component)}
    (hcontent : Agrees s (List.map Component.bare) p w) {v : Variant} (h : ¬v.isParent) (n : Node) :
    Agrees s Component.bare (s.buildShared v n p) ((s.create v n).make s (.done [])).toWork := by
  rw [make_of_not_isParent (c := s.create v n) h,
    ← make_of_not_isParent (c := s.create v n) h w]
  exact agrees_buildShared hcontent v n

theorem agrees_issueShared (tag : Text) :
    Agrees s (List.map Component.bare) (issueShared tag) ⟨.ofIssue tag, .ok []⟩ :=
  fun _ hx => ⟨_, rfl, .entering hx _⟩

mutual

/-- The walk from a node comes to the same in a shared context. -/
theorem agrees_walkShared :
    ∀ n : Node, Agrees s (List.map Component.bare) (s.walkShared n) (s.walk n)
  | ⟨tag, attributes, children, text, claimed⟩ => by
      have hchildren := agrees_walkAllShared children
      rw [walkShared, walk]
      split
      · split
        · exact agrees_buildLooseShared _
        · exact .done []
      · cases s.match? ⟨tag, attributes, children, text, claimed⟩ with
        | some found =>
            obtain ⟨v, m⟩ := found
            change Agrees s (List.map Component.bare) _ (if v.isParent then _ else _)
            by_cases hparent : v.isParent
            · rw [if_pos hparent]
              exact agrees_singleton (agrees_buildShared hchildren v m)
            · rw [if_neg hparent]
              exact agrees_singleton (agrees_buildPlain hchildren hparent m)
        | none =>
            dsimp only
            split
            · exact agrees_issueShared tag
            · split
              · exact agrees_buildLooseShared _
              · exact hchildren

theorem agrees_walkAllShared :
    ∀ ns : List Node, Agrees s (List.map Component.bare) (s.walkAllShared ns) (s.walkAll ns)
  | [] => .done []
  | n :: ns => by
      rw [walkAllShared, walkAll]
      refine (agrees_walkShared n).andThen fun cs => ?_
      refine (agrees_walkAllShared ns).andThen fun ds => ?_
      rw [← List.map_append]
      exact .done (cs ++ ds)

end

end Setup

end ArticleExport
