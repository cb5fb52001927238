import ArticleExport.Content.Reader
import ArticleExport.Proofs.Component.Steps
import ArticleExport.Proofs.Markup.PlainText
import ArticleExport.Proofs.Markup.Trees

/-!
# Markup that is read and written again

What is read of markup shows in the markup that is written of it, up to what stands in elements that
are written without an end tag.  The reader knows most of these elements as ones without content; the
few that it does not may hold text, and such text is lost.
-/

namespace ArticleExport

namespace Node

/-- The elements that are written without an end tag although something may be read into them.  That
holds of a link, too: its name may be written with a Kelvin sign, and is another one to the reader. -/
def leakyTags : List Text := ["embed", "link", "source", "track", "wbr"]

/-- Whether a node is as nodes are that are read from markup. -/
structure IsRead (n : Node) : Prop where
  isTagged : n.IsTagged
  childless : n.isText → n.children = []
  leaky : voidTags.contains n.tag → n.children ≠ [] → n.tag ∈ leakyTags

/-! ## Nodes of sound pieces -/

theorem mem_leakyTags {tag : Text} (hname : Markup.IsName tag)
    (hvoid : voidTags.contains tag.lower) (hcontent : ¬Markup.contentless.contains tag) :
    tag.lower ∈ leakyTags := by
  have hmem := List.contains_iff_mem.mp hvoid
  have hascii : ∀ v ∈ voidTags, ∀ d ∈ v, d.isAscii = true := by decide
  -- A name that is changed by lower case has a Kelvin sign in it, which becomes a k.
  rcases @Text.lower_go_eq_or_mem [] tag (fun c hc => (hname c hc).2) (hascii tag.lower hmem) with
    hsame | hk
  · have hknown : ∀ v ∈ voidTags, ¬Markup.contentless.contains v → v ∈ leakyTags := by decide
    refine hknown tag.lower hmem ?_
    rwa [show tag.lower = tag from hsame]
  · have hletter : ∀ v ∈ voidTags, .scalar 'k' ∈ v → v ∈ leakyTags := by decide
    exact hletter tag.lower hmem hk

theorem lower_ne_textTag {tag : Text} {attributes : List (Text × Text)}
    (h : Markup.IsTag tag attributes) :
    tag.lower ≠ textTag := by
  obtain ⟨c, rest, rfl, hletter⟩ := h.letter
  have hlowered := (h.name c (.head _)).2
  cases c with
  | surrogate n => cases hletter
  | scalar x =>
      have hascii : (CodePoint.scalar x).isAscii = true :=
        decide_eq_true (Markup.toNat_lt_of_isAlpha hletter)
      intro heq
      rcases Text.lower_go_cons [] (.scalar x) rest with ⟨d, hd, -, hgo⟩ | hgo
      · obtain ⟨rfl, -⟩ := List.cons.inj (hgo.symm.trans heq)
        exact hd rfl
      · rw [CodePoint.lower_of_isAscii hascii, hlowered] at hgo
        obtain ⟨hx, -⟩ := List.cons.inj (hgo.symm.trans heq)
        obtain rfl := CodePoint.scalar.inj hx
        cases hletter

theorem isRead_element {tag : Text} {attributes : List (Text × Text)} {children : List Node}
    (htag : Markup.IsTag tag attributes)
    (hempty : Markup.contentless.contains tag → children = []) :
    (element tag attributes children).IsRead where
  isTagged := by
    refine ⟨fun c hc => ?_, fun a ha c hc => ?_⟩
    · exact Text.ne_bracket_of_mem_lower_go (fun d hd => (htag.name d hd).1) hc
    · exact (htag.attributes a (Table.mem_of_mem_ofEntries ha) c hc).1
  childless htext := (lower_ne_textTag htag (beq_iff_eq.mp htext)).elim
  leaky hvoid hchildren := mem_leakyTags htag.name hvoid fun hcontent => hchildren (hempty hcontent)

theorem isRead_ofText (t : Text) : (ofText t).IsRead := by
  have htag : ∀ c ∈ textTag, c ≠ .scalar '>' := by decide
  exact ⟨⟨htag, List.forall_mem_nil _⟩, fun _ => rfl, fun _ hchildren => (hchildren rfl).elim⟩

mutual

theorem isRead_of_ofPiece? :
    ∀ p : Markup.Piece, p.IsSound → ∀ n, ofPiece? p = some n →
      n.IsRead ∧ ∀ m ∈ nodesOf n.children, m.IsRead
  | .text t => by
      intro _ n hn
      obtain rfl := Option.some.inj hn
      exact ⟨isRead_ofText t, List.forall_mem_nil _⟩
  | .element tag attributes children => by
      intro hsound n hn
      obtain rfl := Option.some.inj hn
      cases hsound with
      | element htag hempty hinside =>
          refine ⟨isRead_element htag ?_, isRead_of_ofPieces children hinside⟩
          intro hcontent
          rw [hempty hcontent]
          rfl
  | .comment => by
      intro _ n hn
      cases hn

/-- The nodes of sound pieces are as nodes are that are read. -/
theorem isRead_of_ofPieces :
    ∀ ps : List Markup.Piece, (∀ p ∈ ps, p.IsSound) → ∀ m ∈ nodesOf (ofPieces ps), m.IsRead
  | [] => fun _ => List.forall_mem_nil _
  | p :: ps => by
      intro hall
      obtain ⟨hp, hps⟩ := List.forall_mem_cons.mp hall
      have hrest := isRead_of_ofPieces ps hps
      rw [ofPieces]
      split
      · rename_i n hn
        obtain ⟨hown, hinside⟩ := isRead_of_ofPiece? p hp n hn
        rw [nodesOf_cons]
        exact List.forall_mem_cons.mpr ⟨hown, List.forall_mem_append.mpr ⟨hinside, hrest⟩⟩
      · exact hrest

end

theorem isSound_of_mem_bodies {document : Markup.Piece} (h : document.IsSound)
    {body : List Markup.Piece} (hbody : body ∈ bodies document) :
    ∀ p ∈ body, p.IsSound := by
  cases h with
  | text t => cases hbody
  | comment => cases hbody
  | element htag hempty hinside =>
      obtain ⟨p, hp, hpbody⟩ := List.mem_filterMap.mp hbody
      split at hpbody
      · split at hpbody
        · obtain rfl := Option.some.inj hpbody
          cases hinside _ hp with
          | element _ _ hinner => exact hinner
        · cases hpbody
      · cases hpbody

/-- All nodes of a tree are as nodes are that are read. -/
theorem isRead_of_parse {markup : Text} {t : Node} (h : parse markup = .ok t) :
    ∃ children, t = root children ∧ ∀ m ∈ nodesOf children, m.IsRead := by
  rw [parse] at h
  split at h
  · obtain rfl := Except.ok.inj h
    exact ⟨[], rfl, List.forall_mem_nil _⟩
  · split at h
    · split at h
      · cases h
      · split at h
        · cases h
        · rename_i document hdocument
          obtain rfl := Except.ok.inj h
          refine ⟨_, rfl, isRead_of_ofPieces _ ?_⟩
          cases hbodies : (bodies document).head? with
          | none => exact List.forall_mem_nil _
          | some body =>
              exact isSound_of_mem_bodies (Markup.isSound_of_documentOf hdocument)
                (List.mem_of_mem_head? hbodies)
    · generalize (if beginsDocument markup then markup else wrapped markup) = whole at h
      dsimp only at h
      split at h
      · cases h
      · rename_i document hdocument
        split at h
        · rename_i body hbodies
          obtain rfl := Except.ok.inj h
          refine ⟨_, rfl, isRead_of_ofPieces _ ?_⟩
          have hbody := isSound_of_mem_bodies (Markup.isSound_of_documentOf hdocument)
            (hbodies ▸ List.mem_singleton_self body)
          rw [dropLeadingBlank.eq_def]
          split
          · split
            · exact hbody
            · exact (List.forall_mem_cons.mp hbody).2
          · exact hbody
        · cases h

/-! ## Text that is written -/

mutual

theorem writtenText_sublist : ∀ n : Node, n.writtenText.Sublist n.textContent
  | ⟨tag, attributes, children, text, claimed⟩ => by
      rw [writtenText, textContent]
      split
      · exact List.Sublist.refl _
      · split
        · exact List.nil_sublist _
        · exact writtenTexts_sublist children

theorem writtenTexts_sublist : ∀ ns : List Node, (writtenTexts ns).Sublist (textContents ns)
  | [] => List.Sublist.refl _
  | n :: ns => (writtenText_sublist n).append (writtenTexts_sublist ns)

end

theorem textContent_of_void {n : Node} (hvoid : voidTags.contains n.tag) (h : n.children = []) :
    n.textContent = [] := by
  obtain ⟨tag, attributes, children, text, claimed⟩ := n
  have hother : ∀ v ∈ voidTags, v ≠ textTag := by decide
  rw [textContent, if_neg (hother tag (List.contains_iff_mem.mp hvoid)), show children = [] from h]
  rfl

mutual

/-- Where a node has no text, nothing in it has. -/
theorem textContent_eq_nil_of_mem :
    ∀ n : Node, (n.isText → n.children = []) → (∀ m ∈ nodesOf n.children, m.isText → m.children = []) →
      n.textContent = [] → ∀ m ∈ nodesOf n.children, m.textContent = []
  | ⟨tag, attributes, children, text, claimed⟩ => by
      intro hown hall htext
      by_cases hisText : tag = textTag
      · obtain rfl : children = [] := hown (beq_iff_eq.mpr hisText)
        exact List.forall_mem_nil _
      · rw [textContent, if_neg hisText] at htext
        exact textContents_eq_nil_of_mem children hall htext

theorem textContents_eq_nil_of_mem :
    ∀ ns : List Node, (∀ m ∈ nodesOf ns, m.isText → m.children = []) →
      textContents ns = [] → ∀ m ∈ nodesOf ns, m.textContent = []
  | [] => fun _ _ => List.forall_mem_nil _
  | n :: ns => by
      intro hall htext
      rw [nodesOf_cons] at hall ⊢
      obtain ⟨hown, hmore⟩ := List.forall_mem_cons.mp hall
      obtain ⟨hchildren, hrest⟩ := List.forall_mem_append.mp hmore
      obtain ⟨hfirst, hothers⟩ := List.append_eq_nil_iff.mp htext
      exact List.forall_mem_cons.mpr ⟨hfirst, List.forall_mem_append.mpr
        ⟨textContent_eq_nil_of_mem n hown hchildren hfirst,
          textContents_eq_nil_of_mem ns hrest hothers⟩⟩

end

mutual

theorem writtenText_eq_iff :
    ∀ n : Node, (n.isText → n.children = []) → (∀ m ∈ nodesOf n.children, m.isText → m.children = []) →
      (n.writtenText = n.textContent ↔ (voidTags.contains n.tag → n.textContent = []) ∧
        ∀ m ∈ nodesOf n.children, voidTags.contains m.tag → m.textContent = [])
  | ⟨tag, attributes, children, text, claimed⟩ => by
      intro hown hall
      have hinside := writtenTexts_eq_iff children hall
      have hnone := textContent_eq_nil_of_mem ⟨tag, attributes, children, text, claimed⟩ hown hall
      rw [writtenText]
      by_cases htext : tag = textTag
      · obtain rfl : children = [] := hown (beq_iff_eq.mpr htext)
        have hfull : ¬voidTags.contains tag := by
          rw [htext]
          decide
        rw [if_pos htext, textContent, if_pos htext]
        exact ⟨fun _ => ⟨fun hvoid => (hfull hvoid).elim, List.forall_mem_nil _⟩, fun _ => rfl⟩
      · rw [if_neg htext]
        split
        · rename_i hvoid
          -- Nothing is written of the text, so there must be none, and then nothing inside has any.
          constructor
          · intro h
            exact ⟨fun _ => h.symm, fun m hm _ => hnone h.symm m hm⟩
          · rintro ⟨h, -⟩
            exact (h hvoid).symm
        · rename_i hfull
          rw [textContent, if_neg htext, hinside]
          exact ⟨fun h => ⟨fun hvoid => (hfull hvoid).elim, h⟩, And.right⟩

/-- All text of nodes is written just if there is none in elements without an end tag. -/
theorem writtenTexts_eq_iff :
    ∀ ns : List Node, (∀ m ∈ nodesOf ns, m.isText → m.children = []) →
      (writtenTexts ns = textContents ns ↔
        ∀ m ∈ nodesOf ns, voidTags.contains m.tag → m.textContent = [])
  | [] => fun _ => ⟨fun _ => List.forall_mem_nil _, fun _ => rfl⟩
  | n :: ns => by
      intro hall
      rw [nodesOf_cons] at hall ⊢
      obtain ⟨hown, hmore⟩ := List.forall_mem_cons.mp hall
      obtain ⟨hchildren, hrest⟩ := List.forall_mem_append.mp hmore
      rw [writtenTexts, textContents,
        append_eq_append_iff_of_sublist (writtenText_sublist n) (writtenTexts_sublist ns),
        writtenText_eq_iff n hown hchildren, writtenTexts_eq_iff ns hrest, List.forall_mem_cons,
        List.forall_mem_append, and_assoc]

end

end Node

/-! ## Reading and writing -/

/-- Whatever the markup: what is written of the tree that is read of it shows the text of the tree
outside of elements without an end tag.  That is all of the text just if none of the few elements
without an end tag that are read with content has any. -/
theorem plainText_outerHtml_of_parse {markup : Text} {t : Node} (h : Node.parse markup = .ok t) :
    Markup.plainText t.outerHtml = t.writtenText ∧
      (Markup.plainText t.outerHtml = t.textContent ↔
        ∀ n ∈ Node.nodesOf t.children, n.tag ∈ Node.leakyTags → n.textContent = []) := by
  obtain ⟨children, rfl, hread⟩ := Node.isRead_of_parse h
  have hshown : Markup.plainText (Node.root children).outerHtml = Node.writtenTexts children := by
    have hleaves := Node.leaves_writtenTexts children fun m hm => (hread m hm).isTagged
    have hhtml : (Node.root children).outerHtml = Node.innerHtmlOf children := rfl
    rw [hhtml, Markup.plainText, hleaves.withoutTags_eq, Markup.decodeReferences_escapeText]
  have hwritten : (Node.root children).writtenText = Node.writtenTexts children := rfl
  have htext : (Node.root children).textContent = Node.textContents children := rfl
  rw [hwritten, htext, hshown]
  refine ⟨rfl, ?_⟩
  rw [Node.writtenTexts_eq_iff children fun m hm => (hread m hm).childless]
  refine forall₂_congr fun n hn => ?_
  constructor
  · intro hvoid hleaky
    have hall : ∀ tag ∈ Node.leakyTags, Node.voidTags.contains tag := by decide
    exact hvoid (hall n.tag hleaky)
  · intro hleaky hvoid
    by_cases hchildren : n.children = []
    · exact Node.textContent_of_void hvoid hchildren
    · exact hleaky ((hread n hn).leaky hvoid hchildren)

/-- Markup of a paragraph with references and an element inside. -/
theorem plainText_outerHtml_of_paragraph :
    let markup : Text := "<p>a &amp; <b>c</b></p>"
    ∃ t, Node.parse markup = .ok t ∧ Markup.plainText t.outerHtml = t.writtenText ∧
      (Markup.plainText t.outerHtml = t.textContent ↔
        ∀ n ∈ Node.nodesOf t.children, n.tag ∈ Node.leakyTags → n.textContent = []) := by
  intro markup
  obtain ⟨t, ht⟩ := exists_of_isOk (show (Node.parse markup).isOk = true by decide +kernel)
  exact ⟨t, ht, plainText_outerHtml_of_parse ht⟩

/-- Text behind a place where a line may break is read as text in it, and lost. -/
theorem plainText_outerHtml_ne_of_text_in_wbr :
    ∃ t, Node.parse ("<p>a<wbr>b</p>" : Text) = .ok t ∧
      Markup.plainText t.outerHtml ≠ t.textContent := by
  have hholds : (Node.parse ("<p>a<wbr>b</p>" : Text)).toOption.any (fun t =>
      Markup.plainText t.outerHtml == Text.ofString "a" && t.textContent == Text.ofString "ab") =
        true := by decide +kernel
  obtain ⟨t, ht, hboth⟩ := exists_of_holds hholds
  obtain ⟨hshown, htext⟩ := (Bool.and_eq_true _ _).mp hboth
  refine ⟨t, ht, ?_⟩
  rw [beq_iff_eq.mp hshown, beq_iff_eq.mp htext]
  decide

end ArticleExport
