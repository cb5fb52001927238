import ArticleExport.Component.Kind

/-!
# The tags that a kind takes

Every kind but the aside takes elements by their tags: of some tags it takes the elements that
have what it needs, and of all other tags none.  An aside takes any element that has its class.
-/

namespace ArticleExport.Kind

/-- Whether there are elements of a tag that a kind takes, whatever class marks the asides. -/
def takesTag (tag : Text) : Kind → Bool
  | aside => false
  | footnotes => tag = "ol"
  | image => tag = "img" || tag = "figure" || wrapperTags.contains tag
  | quote => tag = "blockquote" || tag = "figure"
  | heading => (headingLevel? tag).isSome
  | divider => tag = "hr"
  | body => bodyTags.contains tag
  | inArticle => false

variable {settings : Settings} {tag : Text}

theorem match?_eq_none_of_takesTag {k : Kind} (hkind : k ≠ .aside) {n : Node}
    (h : takesTag n.tag k = false) :
    k.match? settings n = none := by
  cases k with
  | aside => exact (hkind rfl).elim
  | footnotes =>
      have htag : n.tag ≠ "ol" := of_decide_eq_false h
      exact if_neg fun hboth => htag hboth.1
  | image =>
      simp only [takesTag, Bool.or_eq_false_iff, decide_eq_false_iff_not] at h
      obtain ⟨⟨himg, hfigure⟩, hwrapper⟩ := h
      rw [match?, if_neg himg, if_neg fun hboth => hfigure hboth.1, hwrapper]
      rfl
  | quote =>
      simp only [takesTag, Bool.or_eq_false_iff, decide_eq_false_iff_not] at h
      rw [match?, if_neg h.1, if_neg fun hboth => h.2 hboth.1]
  | heading => exact if_neg fun hboth => by rw [takesTag, hboth.1] at h; cases h
  | divider => exact if_neg (of_decide_eq_false h)
  | body =>
      rw [takesTag] at h
      rw [match?, h]
      rfl
  | inArticle => rfl

/-- An element of a tag around a node, with the classes that lists of footnotes and pull quotes have
and with the address of an image. -/
def specimen (tag : Text) (child : Node) : Node :=
  ⟨tag, [("class", footnotesClass ++ " " ++ pullquoteClass), ("src", "a")], [child], [], false⟩

/-- What there is in an element that a kind takes. -/
def specimenContent : Kind → Node
  | image => .element "img" [("src", "a")] []
  | _ => .element "blockquote" [] [.ofText "a"]

theorem isSome_match?_specimen {k : Kind} (h : takesTag tag k = true) :
    (k.match? settings (specimen tag k.specimenContent)).isSome = true := by
  cases k with
  | aside => cases h
  | footnotes =>
      obtain rfl := of_decide_eq_true h
      rfl
  | image =>
      simp only [takesTag, wrapperTags, Bool.or_eq_true, decide_eq_true_eq, List.contains_iff_mem,
        List.mem_cons, List.not_mem_nil, or_false] at h
      obtain (rfl | rfl) | rfl | rfl := h
      · rfl
      · rfl
      · rfl
      · rfl
  | quote =>
      simp only [takesTag, Bool.or_eq_true, decide_eq_true_eq] at h
      obtain rfl | rfl := h
      · rfl
      · rfl
  | heading =>
      -- No heading has the tag of text nodes, so what shows is the text of the child.
      have htag : tag ≠ Node.textTag := by
        rintro rfl
        cases h
      have hvisible : (specimen tag heading.specimenContent).hasVisibleText = true := by
        rw [Node.hasVisibleText, specimen, Node.textContent, if_neg htag]
        rfl
      exact congrArg Option.isSome (if_pos ⟨h, hvisible⟩)
  | divider =>
      obtain rfl := of_decide_eq_true h
      rfl
  | body =>
      simp only [takesTag, bodyTags, List.contains_iff_mem, List.mem_cons, List.not_mem_nil,
        or_false] at h
      obtain rfl | rfl | rfl | rfl | rfl | rfl := h
      all_goals rfl
  | inArticle => cases h

/-- A kind takes a tag if it takes an element of the tag; asides go by their class alone. -/
theorem takesTag_eq_true_iff {k : Kind} (hkind : k ≠ .aside) :
    takesTag tag k = true ↔ ∃ n : Node, n.tag = tag ∧ (k.match? settings n).isSome = true := by
  constructor
  · intro h
    exact ⟨_, rfl, isSome_match?_specimen h⟩
  · rintro ⟨n, rfl, hmatch⟩
    cases htakes : takesTag n.tag k with
    | true => rfl
    | false =>
        rw [match?_eq_none_of_takesTag hkind htakes] at hmatch
        cases hmatch

end ArticleExport.Kind
