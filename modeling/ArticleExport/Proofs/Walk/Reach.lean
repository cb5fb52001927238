import ArticleExport.Proofs.Markup.PlainText
import ArticleExport.Proofs.Walk.Yields

/-!
# The nodes that a walk looks at

A walk looks into a node where nothing becomes of the node itself, and where a component is made
around what its children become.  What is inside of any other node goes along with the node, and
no variant is offered it.  An issue is entered for each node that the walk looks at, that no
variant takes and that the format cannot show, and for no other one.
-/

namespace ArticleExport

/-- What is inside a node of a tree is in the tree, in the same order. -/
theorem Node.nodesOf_children_sublist {x : Node} :
    ∀ {ns : List Node}, x ∈ nodesOf ns → (nodesOf x.children).Sublist (nodesOf ns)
  | [] => nofun
  | ⟨tag, attributes, children, text, claimed⟩ :: ns => by
      intro h
      rw [nodesOf_cons] at h ⊢
      rcases List.mem_cons.mp h with rfl | hinside
      · exact (List.sublist_append_left _ _).cons _
      · rcases List.mem_append.mp hinside with hchild | hrest
        · exact ((nodesOf_children_sublist hchild).trans (List.sublist_append_left _ _)).cons _
        · exact ((nodesOf_children_sublist hrest).trans (List.sublist_append_right _ _)).cons _

namespace Setup

/-- Whether a walk looks at the children of a node, and makes nothing of the node. -/
def opens (s : Setup) (n : Node) : Bool :=
  !n.isText && (s.match? n).isNone && !unsupportedTags.contains n.tag &&
    !(inlineTags.contains n.tag && n.hasVisibleText && s.keepsLooseText)

/-- Whether a walk makes a component of a node around those of its children. -/
def surrounds (s : Setup) (n : Node) : Bool :=
  !n.isText && (s.match? n).any fun found => found.1.isParent

/-- Whether a walk that looks at a node enters an issue for it. -/
def rejects (s : Setup) (n : Node) : Bool :=
  !n.isText && (s.match? n).isNone && unsupportedTags.contains n.tag

/-- A walk takes a node with everything in it: text, the node of a component without others
inside, or an element that belongs into text. -/
inductive TakesWhole (s : Setup) (n : Node) : Prop
  | text (isText : n.isText)
  | block {v : Variant} {m : Node} (matched : s.match? n = some (v, m)) (isPlain : ¬v.isParent)
  | inText (unmatched : s.match? n = none) (isInline : inlineTags.contains n.tag)
      (visible : n.hasVisibleText)

mutual

/-- A node and the nodes in it that a walk looks at, in document order. -/
def reached (s : Setup) : Node → List Node
  | ⟨tag, attributes, children, text, claimed⟩ =>
    let n : Node := ⟨tag, attributes, children, text, claimed⟩
    n :: if s.opens n || s.surrounds n then reachedOf s children else []

/-- The nodes that a walk over nodes looks at, in document order. -/
def reachedOf (s : Setup) : List Node → List Node
  | [] => []
  | n :: ns => reached s n ++ reachedOf s ns

end

variable {s : Setup} {n : Node} {ns : List Node}

theorem reachedOf_cons (s : Setup) (n : Node) (ns : List Node) :
    s.reachedOf (n :: ns) =
      n :: ((if s.opens n || s.surrounds n then s.reachedOf n.children else []) ++
        s.reachedOf ns) := by
  cases n
  rfl

theorem opens_iff :
    s.opens n = true ↔ ¬n.isText ∧ s.match? n = none ∧ ¬unsupportedTags.contains n.tag ∧
      ¬((inlineTags.contains n.tag ∧ n.hasVisibleText) ∧ s.keepsLooseText) := by
  simp only [opens, Bool.and_eq_true, Bool.not_eq_true', Option.isNone_iff_eq_none, and_assoc,
    ← Bool.not_eq_true]

theorem opens_eq_false_of_isSome (h : (s.match? n).isSome) : s.opens n = false := by
  rw [opens, Option.isNone_eq_false_iff.mpr h, Bool.and_false]
  rfl

theorem rejects_eq_false_of_isSome (h : (s.match? n).isSome) : s.rejects n = false := by
  rw [rejects, Option.isNone_eq_false_iff.mpr h, Bool.and_false]
  rfl

/-- What a walk looks at is looked into, rejected or taken whole. -/
theorem cases_of_reached (s : Setup) (n : Node) :
    (s.opens n || s.surrounds n) = true ∨ s.rejects n = true ∨ s.TakesWhole n := by
  by_cases htext : n.isText
  · exact .inr (.inr (.text htext))
  have helement : n.isText = false := Bool.eq_false_iff.mpr htext
  cases hmatch : s.match? n with
  | some found =>
      obtain ⟨v, m⟩ := found
      by_cases hparent : v.isParent
      · left
        simp [surrounds, helement, hmatch, hparent]
      · exact .inr (.inr (.block hmatch hparent))
  | none =>
      by_cases htag : unsupportedTags.contains n.tag
      · right
        left
        simp only [rejects, helement, hmatch, htag]
        rfl
      · by_cases hinText : (inlineTags.contains n.tag ∧ n.hasVisibleText) ∧ s.keepsLooseText
        · exact .inr (.inr (.inText hmatch hinText.1.1 hinText.1.2))
        · left
          rw [opens_iff.mpr ⟨htext, hmatch, htag, hinText⟩, Bool.true_or]

/-- What is in a tree is looked at, or it is inside of a node that is looked at and taken whole or
rejected. -/
theorem reached_or_inside {x : Node} :
    ∀ {ns : List Node}, x ∈ Node.nodesOf ns →
      x ∈ s.reachedOf ns ∨
        ∃ y ∈ s.reachedOf ns, (s.rejects y = true ∨ s.TakesWhole y) ∧ x ∈ Node.nodesOf y.children
  | [] => nofun
  | ⟨tag, attributes, children, text, claimed⟩ :: ns => by
      intro h
      let n : Node := ⟨tag, attributes, children, text, claimed⟩
      rw [Node.nodesOf_cons] at h
      rw [reachedOf_cons]
      rcases List.mem_cons.mp h with rfl | hinside
      · exact .inl (.head _)
      · rcases List.mem_append.mp hinside with hchild | hrest
        · rcases s.cases_of_reached n with hinto | hwhole
          · rw [if_pos hinto]
            rcases reached_or_inside hchild with hreached | ⟨y, hy, hx⟩
            · exact .inl (.tail _ (List.mem_append_left _ hreached))
            · exact .inr ⟨y, .tail _ (List.mem_append_left _ hy), hx⟩
          · exact .inr ⟨n, .head _, hwhole, hchild⟩
        · rcases reached_or_inside hrest with hreached | ⟨y, hy, hx⟩
          · exact .inl (.tail _ (List.mem_append_right _ hreached))
          · exact .inr ⟨y, .tail _ (List.mem_append_right _ hy), hx⟩

/-! ## What is looked at, node by node -/

theorem reachedOf_append (s : Setup) (n : Node) (ns : List Node) :
    s.reachedOf (n :: ns) = s.reachedOf [n] ++ s.reachedOf ns := by
  rw [reachedOf, reachedOf, reachedOf, List.append_nil]

/-- A node that is not looked into is all that is looked at. -/
theorem reachedOf_alone (hopens : s.opens n = false) (hsurrounds : s.surrounds n = false) :
    s.reachedOf [n] = [n] := by
  rw [reachedOf_cons, hopens, hsurrounds]
  rfl

theorem reachedOf_into (h : (s.opens n || s.surrounds n) = true) :
    s.reachedOf [n] = n :: s.reachedOf n.children := by
  rw [reachedOf_cons, if_pos h, reachedOf, List.append_nil]

theorem reachedOf_of_isText (h : n.isText) : s.reachedOf [n] = [n] :=
  reachedOf_alone (by rw [opens, h]; rfl) (by rw [surrounds, h]; rfl)

theorem reachedOf_of_inText (hloose : s.keepsLooseText = true) (visible : n.hasVisibleText)
    (inText : n.isText ∨ s.match? n = none ∧ inlineTags.contains n.tag) :
    s.reachedOf [n] = [n] := by
  rcases inText with htext | ⟨hnone, hinline⟩
  · exact reachedOf_of_isText htext
  · refine reachedOf_alone (Bool.eq_false_iff.mpr fun hopens => ?_) ?_
    · exact (opens_iff.mp hopens).2.2.2 ⟨⟨hinline, visible⟩, hloose⟩
    · rw [surrounds, hnone]
      exact Bool.and_false _

theorem reachedOf_of_unsupported (unmatched : s.match? n = none)
    (tag : unsupportedTags.contains n.tag) :
    s.reachedOf [n] = [n] := by
  refine reachedOf_alone (Bool.eq_false_iff.mpr fun hopens => ?_) ?_
  · exact (opens_iff.mp hopens).2.2.1 tag
  · rw [surrounds, unmatched]
    exact Bool.and_false _

theorem reachedOf_of_plain {m : Node} {v : Variant} (matched : s.match? n = some (v, m))
    (isPlain : ¬v.isParent) :
    s.reachedOf [n] = [n] := by
  refine reachedOf_alone (opens_eq_false_of_isSome (by rw [matched]; rfl)) ?_
  rw [surrounds, matched]
  exact (congrArg _ (Bool.eq_false_iff.mpr isPlain)).trans (Bool.and_false _)

theorem reachedOf_of_inside (isElement : ¬n.isText) (unmatched : s.match? n = none)
    (supported : ¬unsupportedTags.contains n.tag)
    (notInText : ¬((inlineTags.contains n.tag ∧ n.hasVisibleText) ∧ s.keepsLooseText)) :
    s.reachedOf [n] = n :: s.reachedOf n.children := by
  refine reachedOf_into ?_
  rw [opens_iff.mpr ⟨isElement, unmatched, supported, notInText⟩]
  rfl

theorem reachedOf_of_parent {m : Node} {v : Variant} (isElement : ¬n.isText)
    (matched : s.match? n = some (v, m)) (isParent : v.isParent) :
    s.reachedOf [n] = n :: s.reachedOf n.children := by
  have hsurrounds : s.surrounds n = true := by
    rw [surrounds, matched, Bool.eq_false_iff.mpr isElement]
    exact isParent
  refine reachedOf_into ?_
  rw [hsurrounds]
  exact Bool.or_true _

/-! ## Issues -/

end Setup

theorem Step.issues_of_run {theme : Theme} {c d : Component} {step : Step} {entered : Ledger}
    (h : step.run theme c = .ok (d, entered)) :
    entered.issues = [] := by
  rcases Step.entered_of_run h with
    rfl | ⟨name, style, rfl⟩ | ⟨name, layout, rfl⟩ | ⟨name, style, rfl⟩ | ⟨address, -, rfl⟩
  all_goals rfl

/-- No component enters an issue. -/
theorem Making.issues_steps (theme : Theme) (c : Component) (steps : List Step) :
    (Making.steps theme c steps).ledger.issues = [] := by
  induction steps generalizing c with
  | nil => rfl
  | cons step steps ih =>
      rw [Making.steps]
      split
      · rename_i d entered hrun
        have hrest := ih d
        simp only [Ledger.merge, Step.issues_of_run hrun, hrest, List.append_nil]
      · rfl

namespace Setup

variable {s : Setup}

theorem Builds.issues_eq_nil
    {v : Variant} {n : Node} {parts : List Component} {c : Component} {l : Ledger}
    (h : s.Builds v n parts c l) :
    l.issues = [] := by
  obtain ⟨-, rfl, -⟩ := Making.mk.inj h
  exact Making.issues_steps _ _ _

/-- The issue of a node that a walk rejects. -/
def issueOf (n : Node) : ComponentIssue := ⟨n.tag, none⟩

/-- The issues of a walk are those of the nodes that it looks at and rejects, in their order. -/
theorem issues_of_yields (hloose : s.keepsLooseText = true) {ns : List Node}
    {cs : List Component} {l : Ledger} (h : s.Yields ns cs l) :
    l.issues = ((s.reachedOf ns).filter s.rejects).map issueOf := by
  have hspared {n : Node} (hrejects : s.rejects n = false) : ¬s.rejects n = true := by
    rw [hrejects]
    exact Bool.false_ne_true
  have hmatched {n m : Node} {v : Variant} (matched : s.match? n = some (v, m)) :
      ¬s.rejects n = true :=
    hspared (rejects_eq_false_of_isSome (by rw [matched]; rfl))
  induction h with
  | nil => rfl
  | @cons n ns cs ds l m first rest ih ih' =>
      rw [reachedOf_append, List.filter_append, List.map_append, ← ih, ← ih']
      rfl
  | @blank n isText dropped =>
      rw [reachedOf_of_isText isText,
        List.filter_cons_of_neg (hspared (by rw [rejects, isText]; rfl))]
      rfl
  | @loose n c l visible inText builds =>
      have hrejects : s.rejects n = false := by
        rcases inText with htext | ⟨-, hinline⟩
        · rw [rejects, htext]
          rfl
        · have hdisjoint : ∀ tag ∈ inlineTags, unsupportedTags.contains tag = false := by decide
          rw [rejects, hdisjoint n.tag (List.contains_iff_mem.mp hinline)]
          exact Bool.and_false _
      rw [reachedOf_of_inText hloose visible inText, List.filter_cons_of_neg (hspared hrejects)]
      exact builds.issues_eq_nil
  | @unsupported n isElement unmatched tag =>
      have hrejects : s.rejects n = true := by
        simp only [rejects, Bool.eq_false_iff.mpr isElement, unmatched, tag]
        rfl
      rw [reachedOf_of_unsupported unmatched tag, List.filter_cons_of_pos hrejects]
      rfl
  | @inside n cs l isElement unmatched supported notInText children ih =>
      have hrejects : s.rejects n = false := by
        rw [rejects, Bool.eq_false_iff.mpr supported]
        exact Bool.and_false _
      rw [reachedOf_of_inside isElement unmatched supported notInText,
        List.filter_cons_of_neg (hspared hrejects)]
      exact ih
  | @plain n m v c l isElement matched isPlain builds =>
      rw [reachedOf_of_plain matched isPlain, List.filter_cons_of_neg (hmatched matched)]
      exact builds.issues_eq_nil
  | @parent n m v cs c l k isElement matched isParent children builds ih =>
      rw [reachedOf_of_parent isElement matched isParent,
        List.filter_cons_of_neg (hmatched matched)]
      simp only [Ledger.merge, builds.issues_eq_nil, List.append_nil]
      exact ih

end Setup

end ArticleExport
