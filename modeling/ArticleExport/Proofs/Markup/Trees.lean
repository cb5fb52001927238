import ArticleExport.Markup.Tree
import ArticleExport.Proofs.Markup.Tokens

/-!
# The elements of a document

Whatever the markup, the elements of the document that is read have the names of start tags, and the
elements that never have content hold nothing.  Every token keeps that of the elements that are
open: an element without content is closed by the token that opens it, and what is opened without a
tag are elements with content.
-/

namespace ArticleExport.Markup

/-- Whether the elements of a piece have the names of tags, and those without content hold nothing. -/
inductive Piece.IsSound : Piece → Prop
  | text (t : Text) : IsSound (.text t)
  | element {tag : Text} {attributes : List (Text × Text)} {children : List Piece}
      (isTag : IsTag tag attributes) (empty : contentless.contains tag → children = [])
      (inside : ∀ p ∈ children, IsSound p) :
      IsSound (.element tag attributes children)
  | comment : IsSound .comment

/-- Whether an open element has the names of a tag, may have content, and has sound content. -/
structure Frame.IsSound (f : Frame) : Prop where
  isTag : IsTag f.tag f.attributes
  notEmpty : ¬contentless.contains f.tag
  inside : ∀ p ∈ f.pieces, p.IsSound

namespace Builder

/-- Whether all elements are sound, the open ones and those of the document. -/
structure IsSound (b : Builder) : Prop where
  frames : ∀ f ∈ b.frames, f.IsSound
  document : ∀ p, b.document = some p → p.IsSound

variable {b : Builder} {p : Piece} {tag : Text} {attributes : List (Text × Text)}

theorem isSound_join {ps : List Piece} (hp : p.IsSound) (hps : ∀ q ∈ ps, q.IsSound) :
    ∀ q ∈ join p ps, q.IsSound := by
  rw [join.eq_def]
  split
  · obtain ⟨hs, hrest⟩ := List.forall_mem_cons.mp hps
    split
    · exact List.forall_mem_cons.mpr ⟨.text _, hrest⟩
    · exact List.forall_mem_cons.mpr ⟨hp, hps⟩
  · exact List.forall_mem_cons.mpr ⟨hp, hps⟩

theorem IsSound.add (h : b.IsSound) (hp : p.IsSound) : (b.add p).IsSound := by
  rw [Builder.add.eq_def]
  split
  · rename_i f fs hframes
    obtain ⟨hf, hfs⟩ := List.forall_mem_cons.mp (hframes ▸ h.frames)
    refine ⟨List.forall_mem_cons.mpr ⟨?_, hfs⟩, h.document⟩
    exact ⟨hf.isTag, hf.notEmpty, isSound_join hp hf.inside⟩
  · split
    · refine ⟨h.frames, ?_⟩
      intro q hq
      obtain rfl := Option.some.inj hq
      exact hp
    · exact h

theorem IsSound.open_ (h : b.IsSound) (htag : IsTag tag attributes)
    (hcontent : ¬contentless.contains tag) :
    (b.open_ tag attributes).IsSound :=
  ⟨List.forall_mem_cons.mpr ⟨⟨htag, hcontent, List.forall_mem_nil _⟩, h.frames⟩, h.document⟩

theorem IsSound.close (h : b.IsSound) : b.close.IsSound := by
  rw [Builder.close]
  split
  · rename_i f fs hframes
    obtain ⟨hf, hfs⟩ := List.forall_mem_cons.mp (hframes ▸ h.frames)
    refine IsSound.add ⟨hfs, h.document⟩ (.element hf.isTag (fun hempty => ?_) ?_)
    · exact (hf.notEmpty hempty).elim
    · intro q hq
      exact hf.inside q (List.mem_reverse.mp hq)
  · exact h

/-- An element that is closed as soon as it is open may be one without content. -/
theorem IsSound.close_open (h : b.IsSound) (htag : IsTag tag attributes) :
    (b.open_ tag attributes).close.IsSound :=
  IsSound.add ⟨h.frames, h.document⟩ (.element htag (fun _ => rfl) (List.forall_mem_nil _))

theorem IsSound.closeWhile (h : b.IsSound) (test : Text → Bool) (fuel : Nat) :
    (b.closeWhile test fuel).IsSound := by
  induction fuel generalizing b with
  | zero => exact h
  | succ fuel ih =>
      rw [Builder.closeWhile]
      split
      · split
        · exact ih h.close
        · exact h
      · exact h

theorem IsSound.autoClose (h : b.IsSound) (tag : Text) : (b.autoClose tag).IsSound :=
  h.closeWhile (closes tag) b.frames.length

theorem isTag_implied {tag : Text} (h : tag ∈ (["html", "head", "body"] : List Text)) :
    IsTag tag [] ∧ ¬contentless.contains tag := by
  simp only [List.mem_cons, List.not_mem_nil, or_false] at h
  rcases h with rfl | rfl | rfl
  · exact ⟨⟨by unfold IsName; decide, ⟨_, _, rfl, rfl⟩, List.forall_mem_nil _⟩, by decide⟩
  · exact ⟨⟨by unfold IsName; decide, ⟨_, _, rfl, rfl⟩, List.forall_mem_nil _⟩, by decide⟩
  · exact ⟨⟨by unfold IsName; decide, ⟨_, _, rfl, rfl⟩, List.forall_mem_nil _⟩, by decide⟩

theorem IsSound.openImplied (h : b.IsSound) (tag : Text) : (b.openImplied tag).IsSound := by
  have hopen {c : Builder} (hc : c.IsSound) {name : Text}
      (hname : name ∈ (["html", "head", "body"] : List Text)) : (c.open_ name []).IsSound :=
    hc.open_ (isTag_implied hname).1 (isTag_implied hname).2
  have hdocument : (if b.frames.isEmpty then b.open_ "html" [] else b).IsSound := by
    split
    · exact hopen h (by decide)
    · exact h
  rw [Builder.openImplied]
  -- At most two elements are opened: the outermost one, and the one that the tag belongs into.
  generalize (if b.frames.isEmpty then b.open_ "html" [] else b) = c at hdocument ⊢
  split
  · exact h
  · dsimp only
    split
    · exact hdocument
    · split
      · split
        · exact hdocument
        · exact hopen hdocument (by decide)
      · split
        · exact hdocument
        · split
          · exact hdocument
          · exact hopen hdocument (by decide)

theorem IsSound.start (h : b.IsSound) (htag : IsTag tag attributes) (closed : Bool) :
    (b.start tag attributes closed).IsSound := by
  have hopened := (h.autoClose tag).openImplied tag
  rw [Builder.start]
  generalize (b.autoClose tag).openImplied tag = c at hopened ⊢
  dsimp only
  split
  · have hmisplaced : ({ c with misplaced := c.misplaced + 1 } : Builder).IsSound :=
      ⟨hopened.frames, hopened.document⟩
    split
    · exact hmisplaced.close
    · exact hmisplaced
  · split
    · exact hopened.close_open htag
    · rename_i hcontent
      refine hopened.open_ htag ?_
      intro hempty
      exact hcontent (by rw [hempty, Bool.or_true])

theorem IsSound.finish (h : b.IsSound) (tag : Text) : (b.finish tag).IsSound := by
  rw [Builder.finish]
  split
  · exact ⟨h.frames, h.document⟩
  · split
    · exact (h.closeWhile _ _).close
    · exact h

theorem IsSound.text_outside (h : b.IsSound) (t : Text) : (text.outside t b).IsSound := by
  have hgap : (if (t.takeWhile isGap).isEmpty then b else b.add (.text (t.takeWhile isGap))).IsSound := by
    split
    · exact h
    · exact h.add (.text _)
  rw [text.outside]
  generalize (if (t.takeWhile isGap).isEmpty then b else b.add (.text (t.takeWhile isGap))) = c
    at hgap ⊢
  dsimp only
  split
  · exact hgap
  · refine (IsSound.openImplied ?_ _).add (.text _)
    split
    · exact hgap.autoClose _
    · exact hgap

theorem IsSound.text (h : b.IsSound) (t : Text) : (b.text t).IsSound := by
  rw [Builder.text]
  split
  · split
    · exact h.text_outside t
    · exact h.add (.text t)
  · exact h.text_outside t

/-- A token keeps the elements sound. -/
theorem IsSound.step (h : b.IsSound) {token : Token} (htoken : token.IsSound) :
    (b.step token).IsSound := by
  cases token with
  | text t => exact h.text t
  | start tag attributes closed => exact h.start htoken closed
  | finish tag => exact h.finish tag
  | comment => exact h.add .comment

/-- Any tokens keep the elements sound. -/
theorem IsSound.foldl_step (h : b.IsSound) {tokens : List Token}
    (htokens : ∀ token ∈ tokens, token.IsSound) :
    (tokens.foldl Builder.step b).IsSound := by
  induction tokens generalizing b with
  | nil => exact h
  | cons token tokens ih =>
      obtain ⟨hown, hrest⟩ := List.forall_mem_cons.mp htokens
      exact ih (h.step hown) hrest

theorem isSound_initial : initial.IsSound :=
  ⟨List.forall_mem_nil _, nofun⟩

end Builder

/-- The document of any markup is sound. -/
theorem isSound_of_documentOf {markup : Text} {document : Piece}
    (h : documentOf markup = some document) :
    document.IsSound := by
  have htokens : ∀ token ∈ tokens markup, token.IsSound := isSound_of_mem_tokens
  have hread := Builder.isSound_initial.foldl_step htokens
  exact (hread.closeWhile (fun _ => true) _).document document h

end ArticleExport.Markup
