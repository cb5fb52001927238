import ArticleExport.Component.Walk
import ArticleExport.Proofs.Component.Tags
import Mathlib.Logic.Relation

/-!
# Plain containers

A plain container is an element from which nothing is made but what its children become: no
variant takes elements of its tag, and it is neither an aside, nor a part of text, nor anything
that the article format cannot show.  Putting its children in its place is a step on content,
which can be taken wherever a walk comes by on its way through containers and asides.  These
steps come to an end at the content in which no such container is left.
-/

namespace ArticleExport

namespace Node

/-- An element of a tag that no standard variant takes and that has no meaning of its own, without
the class of asides. -/
structure IsContainer (settings : Settings) (n : Node) : Prop where
  isElement : ¬n.isText
  untaken : ∀ v ∈ Variant.standard, v.kind ≠ .aside →
    ∀ m : Node, m.tag = n.tag → v.kind.match? settings m = none
  notInText : ¬inlineTags.contains n.tag
  supported : ¬unsupportedTags.contains n.tag
  unmarked : ¬n.hasClass settings.asideClass

/-- An element that becomes an aside. -/
structure IsAside (settings : Settings) (n : Node) : Prop where
  isElement : ¬n.isText
  matched : (Kind.aside.match? settings n).isSome

instance (settings : Settings) (n : Node) : Decidable (n.IsAside settings) :=
  decidable_of_iff (¬n.isText ∧ (Kind.aside.match? settings n).isSome)
    ⟨fun ⟨helement, hmatched⟩ => ⟨helement, hmatched⟩, fun h => ⟨h.isElement, h.matched⟩⟩

theorem untaken_iff {settings : Settings} {n : Node} :
    (∀ v ∈ Variant.standard, v.kind ≠ .aside →
        ∀ m : Node, m.tag = n.tag → v.kind.match? settings m = none) ↔
      ∀ v ∈ Variant.standard, Kind.takesTag n.tag v.kind = false := by
  constructor
  · intro h v hv
    cases htakes : Kind.takesTag n.tag v.kind with
    | false => rfl
    | true =>
        have hkind : v.kind ≠ .aside := by
          intro haside
          rw [haside] at htakes
          cases htakes
        obtain ⟨m, hm, hmatch⟩ := (Kind.takesTag_eq_true_iff hkind).mp htakes
        rw [h v hv hkind m hm] at hmatch
        cases hmatch
  · intro h v hv hkind m hm
    exact Kind.match?_eq_none_of_takesTag hkind (hm ▸ h v hv)

instance (settings : Settings) (n : Node) : Decidable (n.IsContainer settings) :=
  decidable_of_iff
    (¬n.isText ∧ (∀ v ∈ Variant.standard, Kind.takesTag n.tag v.kind = false) ∧
      ¬inlineTags.contains n.tag ∧ ¬unsupportedTags.contains n.tag ∧
      ¬n.hasClass settings.asideClass)
    ⟨fun ⟨helement, htags, hinline, hsupported, hunmarked⟩ =>
        ⟨helement, untaken_iff.mpr htags, hinline, hsupported, hunmarked⟩,
      fun h => ⟨h.isElement, untaken_iff.mp h.untaken, h.notInText, h.supported, h.unmarked⟩⟩

/-- The node with other children. -/
def around (n : Node) (children : List Node) : Node := { n with children := children }

theorem around_children (n : Node) : n.around n.children = n := by
  cases n
  rfl

variable {settings : Settings} {n : Node}

/-- Whether an element is a container does not depend on what is in it. -/
theorem isContainer_around {children : List Node} :
    (n.around children).IsContainer settings ↔ n.IsContainer settings :=
  ⟨fun h => ⟨h.isElement, h.untaken, h.notInText, h.supported, h.unmarked⟩,
    fun h => ⟨h.isElement, h.untaken, h.notInText, h.supported, h.unmarked⟩⟩

/-- An element becomes an aside by its class, and is not taken again while it is one. -/
theorem isSome_match?_aside (settings : Settings) (n : Node) :
    (Kind.aside.match? settings n).isSome =
      (!settings.asideClass.isEmpty && !n.claimed && n.hasClass settings.asideClass) := by
  rw [Kind.match?, Bool.eq_iff_iff]
  exact Option.isSome_ite

theorem IsAside.around (h : n.IsAside settings) (children : List Node) :
    (n.around children).IsAside settings where
  isElement := h.isElement
  matched := by
    have hmatched := h.matched
    rw [isSome_match?_aside] at hmatched ⊢
    exact hmatched

theorem IsAside.match?_eq (h : n.IsAside settings) : Kind.aside.match? settings n = some n := by
  have hmatched := h.matched
  rw [isSome_match?_aside] at hmatched
  exact if_pos hmatched

end Node

/-! ## Unwrapping -/

/-- Content in which the children of one container have been put in its place: a container of the
content, or one that stands in containers and asides alone. -/
inductive Unwraps (settings : Settings) : List Node → List Node → Prop
  | here {n : Node} (isContainer : n.IsContainer settings) (ns : List Node) :
      Unwraps settings (n :: ns) (n.children ++ ns)
  | later (n : Node) {ns ms : List Node} (rest : Unwraps settings ns ms) :
      Unwraps settings (n :: ns) (n :: ms)
  | inside {n : Node} {ms : List Node} (opens : n.IsContainer settings ∨ n.IsAside settings)
      (inner : Unwraps settings n.children ms) (ns : List Node) :
      Unwraps settings (n :: ns) (n.around ms :: ns)

mutual

/-- What stands in the place of a node when all containers are unwrapped. -/
def unwrap (settings : Settings) : Node → List Node
  | ⟨tag, attributes, children, text, claimed⟩ =>
    let n : Node := ⟨tag, attributes, children, text, claimed⟩
    if n.IsContainer settings then unwrapAll settings children
    else if n.IsAside settings then [n.around (unwrapAll settings children)]
    else [n]

/-- The content with all containers unwrapped that stand in containers and asides alone. -/
def unwrapAll (settings : Settings) : List Node → List Node
  | [] => []
  | n :: ns => unwrap settings n ++ unwrapAll settings ns

end

namespace Unwraps

open Relation (ReflTransGen)

variable {settings : Settings} {n : Node} {ns ms : List Node}

theorem append (h : Unwraps settings ns ms) (zs : List Node) :
    Unwraps settings (ns ++ zs) (ms ++ zs) := by
  induction h with
  | here isContainer ns =>
      rw [List.append_assoc]
      exact .here isContainer (ns ++ zs)
  | later n _ ih => exact .later n ih
  | inside opens inner ns _ => exact .inside opens inner (ns ++ zs)

/-- A container of joined content is one of the first part or one of the second part. -/
theorem exists_of_append {xs ys : List Node} (h : Unwraps settings (xs ++ ys) ms) :
    (∃ xs', Unwraps settings xs xs') ∨ ∃ ys', Unwraps settings ys ys' := by
  induction xs generalizing ms with
  | nil => exact .inr ⟨ms, h⟩
  | cons x xs ih =>
      cases h with
      | here isContainer => exact .inl ⟨_, .here isContainer xs⟩
      | later n rest =>
          rcases ih rest with ⟨xs', hfirst⟩ | hsecond
          · exact .inl ⟨_, .later x hfirst⟩
          · exact .inr hsecond
      | inside opens inner => exact .inl ⟨_, .inside opens inner xs⟩

theorem unwrap_of_isContainer (h : n.IsContainer settings) :
    unwrap settings n = unwrapAll settings n.children := by
  cases n
  exact if_pos h

theorem unwrap_of_isAside (h : ¬n.IsContainer settings) (haside : n.IsAside settings) :
    unwrap settings n = [n.around (unwrapAll settings n.children)] := by
  cases n
  exact (if_neg h).trans (if_pos haside)

theorem unwrap_of_not (h : ¬n.IsContainer settings) (haside : ¬n.IsAside settings) :
    unwrap settings n = [n] := by
  cases n
  exact (if_neg h).trans (if_neg haside)

theorem reflTransGen_around (haside : n.IsAside settings) (zs : List Node)
    (h : ReflTransGen (Unwraps settings) n.children ms) :
    ReflTransGen (Unwraps settings) (n :: zs) (n.around ms :: zs) := by
  have hstep {children children' : List Node} (inner : Unwraps settings children children') :
      Unwraps settings (n.around children :: zs) (n.around children' :: zs) :=
    .inside (n := n.around children) (.inr (haside.around children)) inner zs
  have hlift : ReflTransGen (Unwraps settings) (n.around n.children :: zs) (n.around ms :: zs) :=
    h.lift (p := Unwraps settings) (n.around · :: zs) fun _ _ inner => hstep inner
  rw [Node.around_children] at hlift
  exact hlift

/-- Unwrapping everything is unwrapping one container after the other. -/
theorem reflTransGen_unwrapAll (settings : Settings) :
    ∀ ns : List Node, ReflTransGen (Unwraps settings) ns (unwrapAll settings ns)
  | [] => .refl
  | ⟨tag, attributes, children, text, claimed⟩ :: ns => by
      let n : Node := ⟨tag, attributes, children, text, claimed⟩
      have hinner : ReflTransGen (Unwraps settings) n.children (unwrapAll settings n.children) :=
        reflTransGen_unwrapAll settings children
      have hlater : ReflTransGen (Unwraps settings) (n :: ns) (n :: unwrapAll settings ns) :=
        (reflTransGen_unwrapAll settings ns).lift (n :: ·) fun _ _ => .later n
      refine hlater.trans ?_
      rw [unwrapAll]
      by_cases hcontainer : n.IsContainer settings
      · rw [unwrap_of_isContainer hcontainer]
        refine .head (.here hcontainer _) ?_
        exact hinner.lift (· ++ unwrapAll settings ns) fun _ _ h => h.append _
      · by_cases haside : n.IsAside settings
        · rw [unwrap_of_isAside hcontainer haside]
          exact reflTransGen_around haside _ hinner
        · rw [unwrap_of_not hcontainer haside]
          exact .refl

/-- When everything is unwrapped, no container is left that could be. -/
theorem not_unwraps_unwrapAll (settings : Settings) :
    ∀ ns ms : List Node, ¬Unwraps settings (unwrapAll settings ns) ms
  | [], ms => nofun
  | ⟨tag, attributes, children, text, claimed⟩ :: ns, ms => by
      let n : Node := ⟨tag, attributes, children, text, claimed⟩
      have hinner : ∀ ms, ¬Unwraps settings (unwrapAll settings n.children) ms :=
        not_unwraps_unwrapAll settings children
      intro h
      rw [unwrapAll] at h
      rcases h.exists_of_append with ⟨xs, hfirst⟩ | ⟨ys, hrest⟩
      · by_cases hcontainer : n.IsContainer settings
        · rw [unwrap_of_isContainer hcontainer] at hfirst
          exact hinner xs hfirst
        · by_cases haside : n.IsAside settings
          · rw [unwrap_of_isAside hcontainer haside] at hfirst
            -- The aside itself stays; a container could be inside of it only.
            cases hfirst with
            | here isContainer => exact hcontainer (Node.isContainer_around.mp isContainer)
            | later n rest => cases rest
            | inside opens inner => exact hinner _ inner
          · rw [unwrap_of_not hcontainer haside] at hfirst
            cases hfirst with
            | here isContainer => exact hcontainer isContainer
            | later n rest => cases rest
            | inside opens inner => exact opens.elim hcontainer haside
      · exact not_unwraps_unwrapAll settings ns ys hrest

end Unwraps

end ArticleExport
