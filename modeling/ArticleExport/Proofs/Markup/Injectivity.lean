import ArticleExport.Proofs.Markup.PlainText

/-!
# Markup determines the nodes

Two trees with the same markup are the same tree.  The proof reads the markup from the
left: a name ends at the first delimiter, a value at its quote, and a text at the next
angle bracket, since escaping leaves none of these inside.  The children of an element
end at the first end tag that they do not open themselves.

Trees are taken as a reader of markup would make them: texts that follow each other
without a tag between them are one text, an empty text is none, and an element that is
written without an end tag holds nothing.
-/

namespace ArticleExport

/-- A run of elements ends where the property it has is lost. -/
theorem eq_and_eq_of_append_eq_append {α : Type} {p : α → Prop} {as bs cs ds : List α}
    (ha : ∀ a ∈ as, p a) (hc : ∀ c ∈ cs, p c) (hb : ∀ b ∈ bs.head?, ¬p b) (hd : ∀ d ∈ ds.head?, ¬p d)
    (h : as ++ bs = cs ++ ds) :
    as = cs ∧ bs = ds := by
  induction as generalizing cs with
  | nil =>
      cases cs with
      | nil => exact ⟨rfl, h⟩
      | cons c cs =>
          have hhead : c ∈ bs.head? := by
            rw [List.nil_append] at h
            rw [h]
            rfl
          exact absurd (hc c (.head _)) (hb c hhead)
  | cons a as ih =>
      cases cs with
      | nil =>
          have hhead : a ∈ ds.head? := by
            rw [List.nil_append] at h
            rw [← h]
            rfl
          exact absurd (ha a (.head _)) (hd a hhead)
      | cons c cs =>
          obtain ⟨rfl, htail⟩ := List.cons.inj h
          obtain ⟨rfl, hrest⟩ :=
            ih (fun a ha' => ha a (.tail _ ha')) (fun c hc' => hc c (.tail _ hc')) htail
          exact ⟨rfl, hrest⟩

namespace Node

/-! ## Values -/

/-- The code points that do not stand for themselves in a value. -/
def referred : List CodePoint := [.scalar '\"', .scalar '\'', .scalar '&', .scalar '<', .scalar '>']

theorem escapeValuePoint_of_notMem_referred {c : CodePoint} (h : c ∉ referred) :
    escapeValuePoint c = [c] := by
  unfold escapeValuePoint
  split
  · exact absurd h (by decide)
  · exact absurd h (by decide)
  · unfold escapeTextPoint
    split
    · exact absurd h (by decide)
    · exact absurd h (by decide)
    · exact absurd h (by decide)
    · rfl

theorem exists_escapeValuePoint_of_mem_referred {c : CodePoint} (h : c ∈ referred) :
    ∃ name, escapeValuePoint c = .scalar '&' :: name := by
  have hhead : ∀ c ∈ referred, (escapeValuePoint c).head? = some (.scalar '&') := by decide
  exact List.head?_eq_some_iff.mp (hhead c h)

/-- No reference begins with another one, and none begins like a code point that stands for
itself. -/
theorem escapeValuePoint_append_inj {c d : CodePoint} {r s : Text}
    (h : escapeValuePoint c ++ r = escapeValuePoint d ++ s) :
    c = d ∧ r = s := by
  have hbegins : ∀ c ∈ referred, ∀ d ∈ referred,
      escapeValuePoint c <+: escapeValuePoint d → c = d := by
    decide
  -- A reference and a code point that stands for itself differ at once.
  have hmixed {c d : CodePoint} {r s : Text} (hc : c ∈ referred) (hd : d ∉ referred) :
      escapeValuePoint c ++ r ≠ escapeValuePoint d ++ s := by
    obtain ⟨name, hname⟩ := exists_escapeValuePoint_of_mem_referred hc
    rw [hname, escapeValuePoint_of_notMem_referred hd]
    intro h
    obtain ⟨rfl, -⟩ := List.cons.inj h
    exact hd (by decide)
  by_cases hc : c ∈ referred
  · by_cases hd : d ∈ referred
    · have hown : escapeValuePoint c <+: escapeValuePoint d ++ s := ⟨r, h⟩
      obtain rfl : c = d := by
        rcases List.prefix_or_prefix_of_prefix hown (List.prefix_append _ s) with hshort | hlong
        · exact hbegins c hc d hd hshort
        · exact (hbegins d hd c hc hlong).symm
      exact ⟨rfl, List.append_cancel_left h⟩
    · exact absurd h (hmixed hc hd)
  · by_cases hd : d ∈ referred
    · exact absurd h.symm (hmixed hd hc)
    · rw [escapeValuePoint_of_notMem_referred hc, escapeValuePoint_of_notMem_referred hd] at h
      exact List.cons.inj h

theorem escapeValuePoint_ne_nil (c : CodePoint) : escapeValuePoint c ≠ [] := by
  by_cases hc : c ∈ referred
  · obtain ⟨name, hname⟩ := exists_escapeValuePoint_of_mem_referred hc
    rw [hname]
    exact List.cons_ne_nil _ _
  · rw [escapeValuePoint_of_notMem_referred hc]
    exact List.cons_ne_nil _ _

theorem escapeValue_injective {s t : Text} (h : escapeValue s = escapeValue t) : s = t := by
  rw [escapeValue, escapeValue] at h
  induction s generalizing t with
  | nil =>
      cases t with
      | nil => rfl
      | cons d t =>
          have hpoint := (List.append_eq_nil_iff.mp (List.flatMap_cons ▸ h.symm)).1
          exact absurd hpoint (escapeValuePoint_ne_nil d)
  | cons c s ih =>
      cases t with
      | nil =>
          have hpoint := (List.append_eq_nil_iff.mp (List.flatMap_cons ▸ h)).1
          exact absurd hpoint (escapeValuePoint_ne_nil c)
      | cons d t =>
          rw [List.flatMap_cons, List.flatMap_cons] at h
          obtain ⟨rfl, hrest⟩ := escapeValuePoint_append_inj h
          rw [ih hrest]

theorem ne_quote_of_mem_escapeValue {t : Text} {d : CodePoint} (h : d ∈ escapeValue t) :
    d ≠ .scalar '\"' := by
  obtain ⟨c, -, hd⟩ := List.mem_flatMap.mp h
  by_cases hc : c ∈ referred
  · have hfree : ∀ c ∈ referred, ∀ d ∈ escapeValuePoint c, d ≠ .scalar '\"' := by decide
    exact hfree c hc d hd
  · rw [escapeValuePoint_of_notMem_referred hc] at hd
    obtain rfl := List.mem_singleton.mp hd
    rintro rfl
    exact hc (by decide)

/-! ## Texts -/

theorem escapeText_injective {s t : Text} (h : escapeText s = escapeText t) : s = t := by
  rw [← Markup.decodeReferences_escapeText s, h, Markup.decodeReferences_escapeText]

theorem ne_bracket_of_mem_escapeText {t : Text} {d : CodePoint} (h : d ∈ escapeText t) :
    d ≠ .scalar '<' := by
  obtain ⟨c, -, hd⟩ := List.mem_flatMap.mp h
  exact (ne_bracket_of_mem_escapeTextPoint hd).1

theorem escapeText_ne_nil {t : Text} (h : t ≠ []) : escapeText t ≠ [] := by
  intro hnil
  exact h (escapeText_injective (t := []) hnil)

/-! ## Tags -/

/-- The code points that end a name, or tell the tags of nodes apart. -/
def delimiters : List CodePoint :=
  [.scalar ' ', .scalar '=', .scalar '>', .scalar '/', .scalar '#']

/-- Whether a name of a tag or of an attribute can be told from what follows it, as any word of
lower-case letters, digits and hyphens can. -/
def IsName (t : Text) : Prop := ∀ c ∈ t, c ∉ delimiters

instance (t : Text) : Decidable (IsName t) := List.decidableBAll _ _

theorem IsName.ne {t : Text} (h : IsName t) {d : CodePoint} (hd : d ∈ delimiters) :
    ∀ c ∈ t, c ≠ d := by
  rintro c hc rfl
  exact h c hc hd

theorem IsName.ne_textTag {t : Text} (h : IsName t) : t ≠ textTag := by
  rintro rfl
  exact h (.scalar '#') (by decide) (by decide)

theorem IsName.ne_rootTag {t : Text} (h : IsName t) : t ≠ rootTag := by
  rintro rfl
  exact h (.scalar '#') (by decide) (by decide)

/-- The attributes of a start tag end at its bracket. -/
theorem attributesHtml_append_inj {as bs : List (Text × Text)} {r s : Text}
    (ha : ∀ a ∈ as, IsName a.1) (hb : ∀ b ∈ bs, IsName b.1)
    (h : attributesHtml as ++ .scalar '>' :: r = attributesHtml bs ++ .scalar '>' :: s) :
    as = bs ∧ r = s := by
  induction as generalizing bs with
  | nil =>
      cases bs with
      | nil => exact ⟨rfl, (List.cons.inj h).2⟩
      | cons b bs => cases h
  | cons a as ih =>
      cases bs with
      | nil => cases h
      | cons b bs =>
          obtain ⟨name, value⟩ := a
          obtain ⟨name', value'⟩ := b
          obtain ⟨hname, has⟩ := List.forall_mem_cons.mp ha
          obtain ⟨hname', hbs⟩ := List.forall_mem_cons.mp hb
          simp only [attributesHtml, List.flatMap_cons, List.cons_append, List.append_assoc,
            List.nil_append, List.cons.injEq, true_and] at h
          obtain ⟨rfl, hafter⟩ := eq_and_eq_of_append_eq_append
            (hname.ne (d := .scalar '=') (by decide)) (hname'.ne (d := .scalar '=') (by decide))
            (by simp) (by simp) h
          simp only [List.cons.injEq, true_and] at hafter
          obtain ⟨hvalue, hmore⟩ := eq_and_eq_of_append_eq_append
            (fun c hc => ne_quote_of_mem_escapeValue hc) (fun c hc => ne_quote_of_mem_escapeValue hc)
            (by simp) (by simp) hafter
          obtain rfl := escapeValue_injective hvalue
          obtain ⟨rfl, hrest⟩ := ih has hbs (List.cons.inj hmore).2
          exact ⟨rfl, hrest⟩

/-- The start tag of an element. -/
def startTag (tag : Text) (attributes : List (Text × Text)) : Text :=
  .scalar '<' :: (tag ++ attributesHtml attributes ++ [.scalar '>'])

/-- The end tag of an element. -/
def endTag (tag : Text) : Text := .scalar '<' :: .scalar '/' :: (tag ++ [.scalar '>'])

theorem head?_attributesHtml_append (attributes : List (Text × Text)) (r : Text) :
    ∀ c ∈ (attributesHtml attributes ++ .scalar '>' :: r).head?, c = .scalar ' ' ∨ c = .scalar '>' := by
  cases attributes with
  | nil =>
      intro c hc
      exact .inr (Option.some.inj hc).symm
  | cons a as =>
      intro c hc
      exact .inl (Option.some.inj hc).symm

/-- A start tag says where it ends. -/
theorem startTag_append_inj {tag tag' : Text} {as bs : List (Text × Text)} {r s : Text}
    (htag : IsName tag) (htag' : IsName tag') (ha : ∀ a ∈ as, IsName a.1) (hb : ∀ b ∈ bs, IsName b.1)
    (h : startTag tag as ++ r = startTag tag' bs ++ s) :
    tag = tag' ∧ as = bs ∧ r = s := by
  simp only [startTag, List.cons_append, List.append_assoc, List.nil_append, List.cons.injEq,
    true_and] at h
  have hends (attributes : List (Text × Text)) (r : Text) :
      ∀ c ∈ (attributesHtml attributes ++ .scalar '>' :: r).head?, ¬c ∉ delimiters := by
    intro c hc
    rcases head?_attributesHtml_append attributes r c hc with rfl | rfl
    · decide
    · decide
  obtain ⟨rfl, hafter⟩ :=
    eq_and_eq_of_append_eq_append htag htag' (hends as r) (hends bs s) h
  obtain ⟨rfl, hrest⟩ := attributesHtml_append_inj ha hb hafter
  exact ⟨rfl, rfl, hrest⟩

/-! ## Trees -/

/-- Whether two nodes in a row are not both texts. -/
def Apart (m k : Node) : Prop := ¬(m.isText = true ∧ k.isText = true)

instance (m k : Node) : Decidable (Apart m k) := inferInstanceAs (Decidable (¬_))

/-- Whether a node is as a reader of markup makes it, and no component has taken it. -/
structure IsTidy (n : Node) : Prop where
  unclaimed : n.claimed = false
  /-- A text node is its text alone, and there is some. -/
  text : n.isText = true → n.attributes = [] ∧ n.children = [] ∧ n.text ≠ []
  /-- An element has names that can be read, and its text in its children. -/
  element : n.isText = false → IsName n.tag ∧ (∀ a ∈ n.attributes, IsName a.1) ∧ n.text = []
  childless : voidTags.contains n.tag = true → n.children = []
  apart : n.children.IsChain Apart

instance (n : Node) : Decidable n.IsTidy :=
  decidable_of_iff
    (n.claimed = false ∧ (n.isText = true → n.attributes = [] ∧ n.children = [] ∧ n.text ≠ []) ∧
      (n.isText = false → IsName n.tag ∧ (∀ a ∈ n.attributes, IsName a.1) ∧ n.text = []) ∧
      (voidTags.contains n.tag = true → n.children = []) ∧ n.children.IsChain Apart)
    ⟨fun ⟨hunclaimed, htext, helement, hchildless, hapart⟩ =>
        ⟨hunclaimed, htext, helement, hchildless, hapart⟩,
      fun h => ⟨h.unclaimed, h.text, h.element, h.childless, h.apart⟩⟩

/-- Whether nodes in a row, and all in them, are as a reader of markup makes them. -/
structure AreTidy (ns : List Node) : Prop where
  each : ∀ k ∈ nodesOf ns, k.IsTidy
  apart : ns.IsChain Apart

theorem AreTidy.head {n : Node} {ns : List Node} (h : AreTidy (n :: ns)) : n.IsTidy := by
  refine h.each n ?_
  rw [nodesOf_cons]
  exact .head _

theorem AreTidy.children {n : Node} {ns : List Node} (h : AreTidy (n :: ns)) :
    AreTidy n.children := by
  refine ⟨fun k hk => h.each k ?_, h.head.apart⟩
  rw [nodesOf_cons]
  exact .tail _ (List.mem_append_left _ hk)

theorem AreTidy.tail {n : Node} {ns : List Node} (h : AreTidy (n :: ns)) : AreTidy ns := by
  refine ⟨fun k hk => h.each k ?_, h.apart.of_cons⟩
  rw [nodesOf_cons]
  exact .tail _ (List.mem_append_right _ hk)

theorem IsTidy.eq_of_isText {n m : Node} (hn : n.IsTidy) (hm : m.IsTidy) (hntext : n.isText = true)
    (hmtext : m.isText = true) (h : n.text = m.text) :
    n = m := by
  obtain ⟨tag, attributes, children, text, claimed⟩ := n
  obtain ⟨tag', attributes', children', text', claimed'⟩ := m
  obtain rfl : claimed = false := hn.unclaimed
  obtain rfl : claimed' = false := hm.unclaimed
  obtain rfl : tag = textTag := beq_iff_eq.mp hntext
  obtain rfl : tag' = textTag := beq_iff_eq.mp hmtext
  obtain ⟨rfl, rfl, -⟩ : attributes = [] ∧ children = [] ∧ text ≠ [] := hn.text rfl
  obtain ⟨rfl, rfl, -⟩ : attributes' = [] ∧ children' = [] ∧ text' ≠ [] := hm.text rfl
  obtain rfl : text = text' := h
  rfl

theorem IsTidy.eq_of_element {n m : Node} (hn : n.IsTidy) (hm : m.IsTidy) (hntext : n.isText = false)
    (htag : n.tag = m.tag) (hattributes : n.attributes = m.attributes)
    (hchildren : n.children = m.children) :
    n = m := by
  have hmtext : m.isText = false := by
    rw [← hntext, isText, isText, htag]
  obtain ⟨tag, attributes, children, text, claimed⟩ := n
  obtain ⟨tag', attributes', children', text', claimed'⟩ := m
  obtain rfl : claimed = false := hn.unclaimed
  obtain rfl : claimed' = false := hm.unclaimed
  obtain rfl : text = [] := (hn.element hntext).2.2
  obtain rfl : text' = [] := (hm.element hmtext).2.2
  obtain rfl : tag = tag' := htag
  obtain rfl : attributes = attributes' := hattributes
  obtain rfl : children = children' := hchildren
  rfl

theorem outerHtml_of_isText {n : Node} (h : n.isText = true) : n.outerHtml = escapeText n.text := by
  obtain ⟨tag, attributes, children, text, claimed⟩ := n
  obtain rfl : tag = textTag := beq_iff_eq.mp h
  rw [outerHtml, if_pos rfl]

theorem outerHtml_of_isName {n : Node} (h : IsName n.tag) :
    n.outerHtml = startTag n.tag n.attributes ++
      if voidTags.contains n.tag then [] else innerHtmlOf n.children ++ endTag n.tag := by
  obtain ⟨tag, attributes, children, text, claimed⟩ := n
  rw [outerHtml, if_neg h.ne_textTag, if_neg h.ne_rootTag]
  dsimp only
  split
  · rw [List.append_nil]
    rfl
  · rw [List.append_assoc]
    rfl

/-! ## Where nodes in a row end -/

/-- Whether a text ends what stands before it: it is over, or goes on with an end tag. -/
def Closes (t : Text) : Prop := t = [] ∨ ∃ u, t = .scalar '<' :: .scalar '/' :: u

theorem closes_endTag_append (tag r : Text) : Closes (endTag tag ++ r) :=
  .inr ⟨tag ++ [.scalar '>'] ++ r, rfl⟩

theorem Closes.head? {t : Text} (h : Closes t) : ∀ c ∈ t.head?, ¬c ≠ .scalar '<' := by
  rcases h with rfl | ⟨u, rfl⟩
  · exact nofun
  · intro c hc
    exact not_not.mpr (Option.some.inj hc).symm

theorem not_closes_startTag_append {tag : Text} (htag : IsName tag) (as : List (Text × Text))
    (r : Text) :
    ¬Closes (startTag tag as ++ r) := by
  rintro (hnil | ⟨u, hu⟩)
  · exact List.cons_ne_nil _ _ hnil
  · simp only [startTag, List.cons_append, List.append_assoc, List.nil_append, List.cons.injEq,
      true_and] at hu
    cases tag with
    | nil =>
        have hslash := head?_attributesHtml_append as r (.scalar '/') (by
          rw [← List.nil_append (_ ++ _), hu]
          rfl)
        revert hslash
        decide
    | cons c tag =>
        obtain ⟨rfl, -⟩ := List.cons.inj hu
        exact htag (.scalar '/') (.head _) (by decide)

theorem not_closes_outerHtml_append {n : Node} (h : n.IsTidy) (r : Text) :
    ¬Closes (n.outerHtml ++ r) := by
  cases hn : n.isText with
  | true =>
      obtain ⟨c, t, ht⟩ := List.exists_cons_of_ne_nil (escapeText_ne_nil (h.text hn).2.2)
      have hc : c ≠ .scalar '<' := by
        refine ne_bracket_of_mem_escapeText (t := n.text) ?_
        rw [ht]
        exact .head _
      rw [outerHtml_of_isText hn, ht]
      intro hcloses
      exact hcloses.head? c rfl hc
  | false =>
      have hname := (h.element hn).1
      rw [outerHtml_of_isName hname, List.append_assoc]
      exact not_closes_startTag_append hname _ _

/-- What follows a text begins with a tag. -/
theorem head?_innerHtmlOf_append {n : Node} {ns : List Node} {r : Text} (h : AreTidy (n :: ns))
    (hn : n.isText = true) (hr : Closes r) :
    ∀ c ∈ (innerHtmlOf ns ++ r).head?, ¬c ≠ .scalar '<' := by
  cases ns with
  | nil => exact hr.head?
  | cons m ms =>
      have hm : m.isText = false := by
        have hapart := (List.isChain_cons_cons.mp h.apart).1
        rw [Apart, hn] at hapart
        simpa using hapart
      rw [innerHtmlOf, outerHtml_of_isName (h.tail.head.element hm).1]
      intro c hc
      exact not_not.mpr (Option.some.inj hc).symm

/-- A text is not an element. -/
theorem text_append_ne_element_append {n m : Node} (hn : n.IsTidy) (hntext : n.isText = true)
    (hm : m.IsTidy) (hmtext : m.isText = false) (r s : Text) :
    n.outerHtml ++ r ≠ m.outerHtml ++ s := by
  obtain ⟨c, t, ht⟩ := List.exists_cons_of_ne_nil (escapeText_ne_nil (hn.text hntext).2.2)
  rw [outerHtml_of_isText hntext, outerHtml_of_isName (hm.element hmtext).1, ht]
  intro h
  obtain ⟨rfl, -⟩ := List.cons.inj h
  refine ne_bracket_of_mem_escapeText (t := n.text) ?_ rfl
  rw [ht]
  exact .head _

theorem IsTidy.text_append_inj {n m : Node} (hn : n.IsTidy) (hm : m.IsTidy)
    (hntext : n.isText = true) (hmtext : m.isText = true) {r s : Text}
    (hr : ∀ c ∈ r.head?, ¬c ≠ .scalar '<') (hs : ∀ c ∈ s.head?, ¬c ≠ .scalar '<')
    (h : n.outerHtml ++ r = m.outerHtml ++ s) :
    n = m ∧ r = s := by
  rw [outerHtml_of_isText hntext, outerHtml_of_isText hmtext] at h
  obtain ⟨htext, hrest⟩ := eq_and_eq_of_append_eq_append
    (fun c hc => ne_bracket_of_mem_escapeText hc) (fun c hc => ne_bracket_of_mem_escapeText hc)
    hr hs h
  exact ⟨hn.eq_of_isText hm hntext hmtext (escapeText_injective htext), hrest⟩

/-- An element is read back where its children are. -/
theorem IsTidy.element_append_inj {n m : Node} (hn : n.IsTidy) (hm : m.IsTidy)
    (hntext : n.isText = false) (hmtext : m.isText = false)
    (hchildren : ∀ r s, Closes r → Closes s →
      innerHtmlOf n.children ++ r = innerHtmlOf m.children ++ s → n.children = m.children ∧ r = s)
    {r s : Text} (h : n.outerHtml ++ r = m.outerHtml ++ s) :
    n = m ∧ r = s := by
  obtain ⟨hnname, hnattributes, -⟩ := hn.element hntext
  obtain ⟨hmname, hmattributes, -⟩ := hm.element hmtext
  rw [outerHtml_of_isName hnname, outerHtml_of_isName hmname, List.append_assoc,
    List.append_assoc] at h
  obtain ⟨htag, hattributes, hafter⟩ :=
    startTag_append_inj hnname hmname hnattributes hmattributes h
  rw [← htag] at hafter
  cases hvoid : voidTags.contains n.tag with
  | true =>
      rw [hvoid, if_pos rfl, if_pos rfl] at hafter
      have hnone : n.children = m.children := by
        rw [hn.childless hvoid, hm.childless (htag ▸ hvoid)]
      exact ⟨hn.eq_of_element hm hntext htag hattributes hnone, hafter⟩
  | false =>
      rw [hvoid, if_neg nofun, if_neg nofun, List.append_assoc, List.append_assoc] at hafter
      obtain ⟨hsame, hrest⟩ := hchildren _ _ (closes_endTag_append _ _) (closes_endTag_append _ _) hafter
      -- Both end tags have the same name, so what follows them is the same.
      exact ⟨hn.eq_of_element hm hntext htag hattributes hsame, List.append_cancel_left hrest⟩

/-- Nodes in a row are read back from their markup, and so is what follows them. -/
theorem innerHtmlOf_append_inj :
    ∀ (ns ms : List Node) (r s : Text), AreTidy ns → AreTidy ms → Closes r → Closes s →
      innerHtmlOf ns ++ r = innerHtmlOf ms ++ s → ns = ms ∧ r = s
  | [], [], r, s => by
      intro _ _ _ _ h
      exact ⟨rfl, h⟩
  | [], m :: ms, r, s => by
      intro _ hms hr _ h
      rw [innerHtmlOf, innerHtmlOf, List.nil_append, List.append_assoc] at h
      exact absurd (h ▸ hr) (not_closes_outerHtml_append hms.head _)
  | n :: ns, [], r, s => by
      intro hns _ _ hs h
      rw [innerHtmlOf, innerHtmlOf, List.nil_append, List.append_assoc] at h
      exact absurd (h ▸ hs) (not_closes_outerHtml_append hns.head _)
  | ⟨tag, attributes, children, text, claimed⟩ :: ns, m :: ms, r, s => by
      intro hns hms hr hs h
      let n : Node := ⟨tag, attributes, children, text, claimed⟩
      have hn : n.IsTidy := hns.head
      have hm : m.IsTidy := hms.head
      have hchildren : ∀ r s, Closes r → Closes s →
          innerHtmlOf n.children ++ r = innerHtmlOf m.children ++ s →
            n.children = m.children ∧ r = s :=
        fun r s => innerHtmlOf_append_inj children m.children r s hns.children hms.children
      have hrest := innerHtmlOf_append_inj ns ms r s hns.tail hms.tail hr hs
      change innerHtmlOf (n :: ns) ++ r = innerHtmlOf (m :: ms) ++ s at h
      rw [innerHtmlOf, innerHtmlOf, List.append_assoc, List.append_assoc] at h
      have hfirst : n = m ∧ innerHtmlOf ns ++ r = innerHtmlOf ms ++ s := by
        cases hntext : n.isText with
        | true =>
            cases hmtext : m.isText with
            | true =>
                exact hn.text_append_inj hm hntext hmtext (head?_innerHtmlOf_append hns hntext hr)
                  (head?_innerHtmlOf_append hms hmtext hs) h
            | false => exact absurd h (text_append_ne_element_append hn hntext hm hmtext _ _)
        | false =>
            cases hmtext : m.isText with
            | true => exact absurd h.symm (text_append_ne_element_append hm hmtext hn hntext _ _)
            | false => exact hn.element_append_inj hm hntext hmtext hchildren h
      obtain ⟨rfl, rfl⟩ := hrest hfirst.2
      exact ⟨congrArg (· :: ns) hfirst.1, rfl⟩

/-! ## Markup determines the nodes -/

theorem nodes_eq (n : Node) : n.nodes = n :: nodesOf n.children := by
  cases n
  rfl

theorem areTidy_singleton {n : Node} (h : ∀ k ∈ n.nodes, k.IsTidy) : AreTidy [n] := by
  refine ⟨?_, .singleton n⟩
  rw [nodesOf_cons, ← List.cons_append, ← nodes_eq, nodesOf, List.append_nil]
  exact h

/-- Nodes in a row with the same markup are the same nodes. -/
theorem innerHtmlOf_injective {ns ms : List Node} (hns : AreTidy ns) (hms : AreTidy ms)
    (h : innerHtmlOf ns = innerHtmlOf ms) :
    ns = ms := by
  rw [← List.append_nil (innerHtmlOf ns), ← List.append_nil (innerHtmlOf ms)] at h
  exact (innerHtmlOf_append_inj ns ms [] [] hns hms (.inl rfl) (.inl rfl) h).1

/-- A paragraph whose text and whose title look like markup. -/
def paragraphLikeMarkup : Node :=
  .element "p" [("title", "\" a='&#x27;'"), ("data-n", "2")]
    [.ofText "1 < 2 &amp; ", .element "img" [("src", "</p>")] [], .ofText "</p>"]

end Node

end ArticleExport
