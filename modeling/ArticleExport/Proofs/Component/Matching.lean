import ArticleExport.Proofs.Component.Fragments
import ArticleExport.Proofs.Markup.PlainText

/-!
# The nodes that the kinds take

Whatever a kind takes has what a component of the kind is built from: a photo has a picture, a
pull quote in a figure has a block quote.
-/

namespace ArticleExport

/-- A standard variant is known by its kind. -/
theorem Variant.eq_of_kind_eq {v w : Variant} (hv : v ∈ standard) (hw : w ∈ standard)
    (h : v.kind = w.kind) :
    v = w := by
  have hall : ∀ v ∈ standard, ∀ w ∈ standard, v.kind = w.kind → v = w := by decide
  exact hall v hv w hw h

namespace Kind

/-- Only a photo is made of another node than the one that was offered. -/
theorem eq_of_match?
    {settings : Settings} {k : Kind} {n m : Node} (h : k.match? settings n = some m)
    (hk : k ≠ .image) :
    m = n := by
  cases k
  case image => exact (hk rfl).elim
  all_goals
    simp only [match?] at h
    grind

mutual

theorem mem_of_singleImage? :
    ∀ {n m : Node}, singleImage? n = some m → m.tag = "img" ∧ m ∈ Node.nodesOf n.children
  | ⟨tag, attributes, children, text, claimed⟩, m => by
      intro h
      rw [singleImage?] at h
      split at h
      · cases h
      · exact mem_of_onlyImage? h

theorem mem_of_onlyImage? :
    ∀ {ns : List Node} {m : Node}, onlyImage? ns = some m → m.tag = "img" ∧ m ∈ Node.nodesOf ns
  | [], m => nofun
  | n :: ns, m => by
      intro h
      rw [onlyImage?] at h
      rw [Node.nodesOf_cons]
      split at h
      · obtain ⟨htag, hmem⟩ := mem_of_onlyImage? h
        exact ⟨htag, .tail _ (List.mem_append_right _ hmem)⟩
      · split at h
        · split at h
          · rename_i htag
            obtain rfl := Option.some.inj h
            exact ⟨htag, .head _⟩
          · split at h
            · obtain ⟨htag, hmem⟩ := mem_of_singleImage? h
              exact ⟨htag, .tail _ (List.mem_append_left _ hmem)⟩
            · cases h
        · cases h

end

variable {settings : Settings} {n m : Node}

/-- The node that becomes a photo has a picture. -/
theorem exists_pictureOf (h : image.match? settings n = some m) :
    ∃ picture, pictureOf m = some picture := by
  simp only [match?] at h
  split at h
  · rename_i himage
    split at h
    · obtain rfl := Option.some.inj h
      exact ⟨n, if_pos himage⟩
    · cases h
  · rename_i himage
    split at h
    · rename_i hfigure
      obtain rfl := Option.some.inj h
      cases hinside : n.descendants "img" with
      | nil =>
          rw [hinside] at hfigure
          cases hfigure.2
      | cons picture rest => exact ⟨picture, by rw [pictureOf, if_neg himage, hinside]; rfl⟩
    · split at h
      · obtain ⟨hsingle, -⟩ := Option.filter_eq_some_iff.mp h
        exact ⟨m, if_pos (mem_of_singleImage? hsingle).1⟩
      · cases h

/-- A figure that becomes a quote has a block quote in it. -/
theorem descendants_blockquote_ne_nil (h : quote.match? settings n = some m)
    (hfigure : m.tag = "figure") :
    m.descendants "blockquote" ≠ [] := by
  obtain rfl := eq_of_match? h nofun
  have hother : m.tag ≠ "blockquote" := by
    rw [hfigure]
    decide
  intro hnone
  simp only [match?, if_neg hother, hnone, List.head?_nil, Option.any_none, Bool.false_eq_true,
    if_false, ite_self] at h
  cases h

/-- Of an element that the format cannot show, nothing is made but an aside. -/
theorem eq_aside_of_unsupported {k : Kind} (h : k.match? settings n = some m)
    (htag : unsupportedTags.contains n.tag = true) :
    k = .aside := by
  have hother : ∀ tag ∈ unsupportedTags, tag ≠ "ol" ∧ tag ≠ "img" ∧ tag ≠ "figure" ∧
      tag ≠ "blockquote" ∧ tag ≠ "hr" ∧ tag ∉ wrapperTags ∧ tag ∉ bodyTags ∧
      headingLevel? tag = none := by
    decide
  obtain ⟨hol, himg, hfigure, hblockquote, hhr, hwrapper, hbody, hheading⟩ :=
    hother n.tag (List.contains_iff_mem.mp htag)
  cases k with
  | aside => rfl
  | footnotes => simp [match?, hol] at h
  | image => simp [match?, himg, hfigure, hwrapper] at h
  | quote => simp [match?, hblockquote, hfigure] at h
  | heading => simp [match?, hheading] at h
  | divider => simp [match?, hhr] at h
  | body => simp [match?, hbody] at h
  | inArticle => cases h

end Kind

end ArticleExport
