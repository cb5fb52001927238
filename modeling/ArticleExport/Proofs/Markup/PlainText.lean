import ArticleExport.Content.Markup
import ArticleExport.Markup.Reference
import ArticleExport.Text.Blank
import Mathlib.Data.List.Basic
import Mathlib.Data.List.Induction
import Mathlib.Data.List.TakeWhile

/-!
# The text in markup

Reading markup as plain text drops the tags and decodes the references.  What comes of
the markup of a tree is the text of the tree, as long as no name in it holds an angle
bracket and the elements that are written without an end tag hold nothing.  White space
around the markup is white space around the text, so stripping it loses nothing that
shows.
-/

namespace ArticleExport

/-- Two sublists make up the whole just if each of them is whole. -/
theorem append_eq_append_iff_of_sublist {α : Type} {as bs cs ds : List α} (hac : as.Sublist cs)
    (hbd : bs.Sublist ds) :
    as ++ bs = cs ++ ds ↔ as = cs ∧ bs = ds := by
  constructor
  · intro h
    have hlength := congrArg List.length h
    rw [List.length_append, List.length_append] at hlength
    have hac' := hac.length_le
    have hbd' := hbd.length_le
    exact ⟨hac.eq_of_length (by omega), hbd.eq_of_length (by omega)⟩
  · rintro ⟨rfl, rfl⟩
    rfl

/-! ## What shows of a text -/

namespace Text

/-- The code points of a text that are not white space. -/
def visible (t : Text) : Text := t.filter fun c => !c.isBlank

@[simp]
theorem visible_append (s t : Text) : visible (s ++ t) = visible s ++ visible t :=
  List.filter_append s t

theorem visible_eq_nil_of_blank {t : Text} (h : ∀ c ∈ t, c.isBlank = true) : visible t = [] := by
  refine List.filter_eq_nil_iff.mpr ?_
  intro c hc
  rw [h c hc]
  exact nofun

theorem visible_eq_nil_of_not_isVisible {t : Text} (h : t.isVisible = false) : visible t = [] := by
  refine visible_eq_nil_of_blank ?_
  intro c hc
  have hc' := List.any_eq_false.mp h c hc
  simpa using hc'

/-- Stripping takes white space from both ends. -/
theorem eq_append_strip_append (t : Text) :
    ∃ lead trail, t = lead ++ (t.strip ++ trail) ∧ (∀ c ∈ lead, c.isBlank = true) ∧
      ∀ c ∈ trail, c.isBlank = true := by
  let rest := t.dropWhile CodePoint.isBlank
  have hrest : rest = t.strip ++ (rest.reverse.takeWhile CodePoint.isBlank).reverse := by
    have hsplit := List.takeWhile_append_dropWhile (p := CodePoint.isBlank) (l := rest.reverse)
    have hreverse := congrArg List.reverse hsplit
    rw [List.reverse_append, List.reverse_reverse] at hreverse
    exact hreverse.symm
  refine ⟨t.takeWhile CodePoint.isBlank, (rest.reverse.takeWhile CodePoint.isBlank).reverse,
    ?_, ?_, ?_⟩
  · rw [← hrest]
    exact List.takeWhile_append_dropWhile.symm
  · intro c hc
    exact List.mem_takeWhile_imp hc
  · intro c hc
    exact List.mem_takeWhile_imp (List.mem_reverse.mp hc)

end Text

/-! ## Escaped text is read back -/

namespace Markup

/-- Whether no known name goes on from a given one. -/
def IsFinalName (c : Char) (name : Text) : Prop :=
  ∀ e ∈ referencesFrom c, name <+: Text.ofString e.1 → Text.ofString e.1 = name

instance (c : Char) (name : Text) : Decidable (IsFinalName c name) :=
  List.decidableBAll _ _

/-- A name from which none goes on is found as if the text ended behind it. -/
theorem longestName?_append
    {c : Char} {name : Text} (hfinal : IsFinalName c (.scalar c :: name)) (rest : Text) :
    longestName? (.scalar c :: (name ++ rest)) = longestName? (.scalar c :: name) := by
  have hown : (.scalar c :: name : Text) <+: .scalar c :: (name ++ rest) :=
    List.prefix_append (.scalar c :: name) rest
  have hbegins (e : String × List Nat) (he : e ∈ referencesFrom c) :
      (Text.ofString e.1).isPrefixOf (.scalar c :: (name ++ rest)) =
        (Text.ofString e.1).isPrefixOf (.scalar c :: name) := by
    rw [Bool.eq_iff_iff, List.isPrefixOf_iff_prefix, List.isPrefixOf_iff_prefix]
    constructor
    · intro hlong
      rcases List.prefix_or_prefix_of_prefix hlong hown with hshort | hbeyond
      · exact hshort
      · exact (hfinal e he hbeyond).symm ▸ List.prefix_rfl
    · intro hshort
      exact hshort.trans hown
  rw [longestName?, longestName?]
  refine congrArg (List.foldl longerName none) (List.filterMap_congr ?_)
  intro e he
  dsimp only
  rw [hbegins e he]

theorem readReference_of_isFinalName
    {c : Char} {name : Text} {points : List Nat} (hletter : c ≠ '#')
    (hfinal : IsFinalName c (.scalar c :: name))
    (hname : longestName? (.scalar c :: name) = some (.scalar c :: name, points)) (rest : Text) :
    readReference false (.scalar c :: (name ++ rest)) =
      some (points.filterMap CodePoint.ofNat?, (CodePoint.scalar c :: name).length) := by
  have hnamed : readReference false (.scalar c :: (name ++ rest)) =
      readNamed false (.scalar c :: (name ++ rest)) := by
    rw [readReference]
    all_goals
      intro t heq
      exact hletter (CodePoint.scalar.inj (List.cons.inj heq).1)
  rw [hnamed, readNamed, longestName?_append hfinal rest, hname]
  rfl

theorem decodeReferences_go_length (inAttribute : Bool) (used t : Text) :
    decodeReferences.go inAttribute used.length (used ++ t) =
      decodeReferences.go inAttribute 0 t := by
  induction used with
  | nil => rfl
  | cons c used ih => exact ih

theorem decodeReferences_go_reference
    (c : Char) (name : Text) (points : List Nat) (hletter : c ≠ '#')
    (hfinal : IsFinalName c (.scalar c :: name))
    (hname : longestName? (.scalar c :: name) = some (.scalar c :: name, points)) (rest : Text) :
    decodeReferences.go false 0 (.scalar '&' :: .scalar c :: (name ++ rest)) =
      points.filterMap CodePoint.ofNat? ++ decodeReferences.go false 0 rest := by
  rw [decodeReferences.go, if_pos rfl, readReference_of_isFinalName hletter hfinal hname]
  exact congrArg _ (decodeReferences_go_length false (.scalar c :: name) rest)

theorem decodeReferences_go_escaped (c : CodePoint) (rest : Text) :
    decodeReferences.go false 0 (Node.escapeTextPoint c ++ rest) =
      c :: decodeReferences.go false 0 rest := by
  unfold Node.escapeTextPoint
  split
  · exact decodeReferences_go_reference 'a' "mp;" [38] (by decide) (by decide +kernel)
      (by decide +kernel) rest
  · exact decodeReferences_go_reference 'l' "t;" [60] (by decide) (by decide +kernel)
      (by decide +kernel) rest
  · exact decodeReferences_go_reference 'g' "t;" [62] (by decide) (by decide +kernel)
      (by decide +kernel) rest
  · rename_i hamp _ _
    rw [List.singleton_append, decodeReferences.go, if_neg hamp]

/-- Decoding undoes escaping. -/
theorem decodeReferences_escapeText (t : Text) :
    decodeReferences false (Node.escapeText t) = t := by
  rw [decodeReferences, Node.escapeText]
  induction t with
  | nil => rfl
  | cons c t ih => rw [List.flatMap_cons, decodeReferences_go_escaped, ih]

/-! ## Markup without its tags -/

/-- A text without its tags, which run from an angle bracket to the next closing one. -/
def withoutTags (inTag : Bool) : Text → Text
  | [] => []
  | c :: t =>
    if inTag then withoutTags (c != .scalar '>') t
    else if c = .scalar '<' then withoutTags true t
    else c :: withoutTags false t

/-- What markup shows: its tags are dropped, and its references decoded. -/
def plainText (markup : Text) : Text := decodeReferences false (withoutTags false markup)

/-- Whether markup comes to a text without its tags, whatever follows it. -/
def Leaves (markup text : Text) : Prop :=
  ∀ rest, withoutTags false (markup ++ rest) = text ++ withoutTags false rest

theorem leaves_nil : Leaves [] [] :=
  fun _ => rfl

theorem Leaves.append
    {markup more text further : Text} (h : Leaves markup text) (hmore : Leaves more further) :
    Leaves (markup ++ more) (text ++ further) := by
  intro rest
  rw [List.append_assoc, h, hmore, List.append_assoc]

theorem Leaves.withoutTags_eq {markup text : Text} (h : Leaves markup text) :
    withoutTags false markup = text := by
  have hall := h []
  rwa [List.append_nil, withoutTags, List.append_nil] at hall

theorem leaves_self {t : Text} (h : ∀ c ∈ t, c ≠ .scalar '<') : Leaves t t := by
  intro rest
  induction t with
  | nil => rfl
  | cons c t ih =>
      obtain ⟨hc, ht⟩ := List.forall_mem_cons.mp h
      rw [List.cons_append, withoutTags, if_neg nofun, if_neg hc, ih ht, List.cons_append]

theorem withoutTags_in_tag {name : Text} (h : ∀ c ∈ name, c ≠ .scalar '>') (rest : Text) :
    withoutTags true (name ++ .scalar '>' :: rest) = withoutTags false rest := by
  induction name with
  | nil => rfl
  | cons c name ih =>
      obtain ⟨hc, hname⟩ := List.forall_mem_cons.mp h
      rw [List.cons_append, withoutTags, if_pos rfl, bne_iff_ne.mpr hc, ih hname]

theorem leaves_tag {name : Text} (h : ∀ c ∈ name, c ≠ .scalar '>') :
    Leaves (.scalar '<' :: (name ++ [.scalar '>'])) [] := by
  intro rest
  rw [List.cons_append, List.append_assoc, withoutTags, if_neg nofun, if_pos rfl]
  exact withoutTags_in_tag h rest

theorem mem_of_mem_withoutTags {inTag : Bool} {t : Text} {c : CodePoint}
    (h : c ∈ withoutTags inTag t) :
    c ∈ t := by
  induction t generalizing inTag with
  | nil => cases h
  | cons d t ih =>
      rw [withoutTags] at h
      split at h
      · exact .tail _ (ih h)
      · split at h
        · exact .tail _ (ih h)
        · rcases List.mem_cons.mp h with rfl | hrest
          · exact .head _
          · exact .tail _ (ih hrest)

/-- What follows a text adds nothing to it but code points of its own. -/
theorem withoutTags_append (inTag : Bool) (t rest : Text) :
    ∃ more, withoutTags inTag (t ++ rest) = withoutTags inTag t ++ more ∧ ∀ c ∈ more, c ∈ rest := by
  induction t generalizing inTag with
  | nil =>
      -- A tag that is still open may swallow any part of the rest.
      exact ⟨withoutTags inTag rest, rfl, fun c hc => mem_of_mem_withoutTags hc⟩
  | cons c t ih =>
      rw [List.cons_append, withoutTags, withoutTags]
      split
      · exact ih _
      · split
        · exact ih _
        · obtain ⟨more, hmore, hmem⟩ := ih false
          exact ⟨more, by rw [hmore, List.cons_append], hmem⟩

end Markup

namespace Node

/-! ## Nodes are read back from their markup -/

/-- Whether the markup of a node shows where its tags end, and holds the node whole. -/
structure IsWritten (n : Node) : Prop where
  tag : ∀ c ∈ n.tag, c ≠ .scalar '>'
  attributes : ∀ a ∈ n.attributes, ∀ c ∈ a.1, c ≠ .scalar '>'
  childless : voidTags.contains n.tag → n.children = []

instance (n : Node) : Decidable n.IsWritten :=
  decidable_of_iff
    ((∀ c ∈ n.tag, c ≠ .scalar '>') ∧ (∀ a ∈ n.attributes, ∀ c ∈ a.1, c ≠ .scalar '>') ∧
      (voidTags.contains n.tag → n.children = []))
    ⟨fun ⟨htag, hattributes, hchildless⟩ => ⟨htag, hattributes, hchildless⟩,
      fun h => ⟨h.tag, h.attributes, h.childless⟩⟩

/-- Whether the tags of a node end where they seem to. -/
structure IsTagged (n : Node) : Prop where
  tag : ∀ c ∈ n.tag, c ≠ .scalar '>'
  attributes : ∀ a ∈ n.attributes, ∀ c ∈ a.1, c ≠ .scalar '>'

mutual

/-- The text of a node as far as it is written: what is in elements without an end tag is not. -/
def writtenText : Node → Text
  | ⟨tag, _, children, text, _⟩ =>
    if tag = textTag then text
    else if voidTags.contains tag then []
    else writtenTexts children

/-- The written texts of nodes, one after the other. -/
def writtenTexts : List Node → Text
  | [] => []
  | n :: ns => writtenText n ++ writtenTexts ns

end

theorem nodesOf_cons (n : Node) (ns : List Node) :
    nodesOf (n :: ns) = n :: (nodesOf n.children ++ nodesOf ns) := by
  cases n
  rfl

theorem ne_bracket_of_mem_escapeTextPoint {c d : CodePoint} (h : d ∈ escapeTextPoint c) :
    d ≠ .scalar '<' ∧ d ≠ .scalar '>' := by
  have hname {name : Text} (hfree : ∀ d ∈ name, d ≠ .scalar '<' ∧ d ≠ .scalar '>') (hd : d ∈ name) :
      d ≠ .scalar '<' ∧ d ≠ .scalar '>' :=
    hfree d hd
  unfold escapeTextPoint at h
  split at h
  · exact hname (by decide) h
  · exact hname (by decide) h
  · exact hname (by decide) h
  · rename_i hless hmore
    obtain rfl := List.mem_singleton.mp h
    exact ⟨hless, hmore⟩

theorem ne_bracket_of_mem_escapeValuePoint {c d : CodePoint} (h : d ∈ escapeValuePoint c) :
    d ≠ .scalar '>' := by
  have hname {name : Text} (hfree : ∀ d ∈ name, d ≠ .scalar '>') (hd : d ∈ name) :
      d ≠ .scalar '>' :=
    hfree d hd
  unfold escapeValuePoint at h
  split at h
  · exact hname (by decide) h
  · exact hname (by decide) h
  · exact (ne_bracket_of_mem_escapeTextPoint h).2

theorem leaves_escapeText (t : Text) : Markup.Leaves (escapeText t) (escapeText t) := by
  refine Markup.leaves_self ?_
  intro d hd
  obtain ⟨c, -, hdc⟩ := List.mem_flatMap.mp hd
  exact (ne_bracket_of_mem_escapeTextPoint hdc).1

theorem ne_bracket_of_mem_attributesHtml
    {attributes : List (Text × Text)} (h : ∀ a ∈ attributes, ∀ c ∈ a.1, c ≠ .scalar '>')
    {c : CodePoint} (hc : c ∈ attributesHtml attributes) :
    c ≠ .scalar '>' := by
  obtain ⟨⟨name, value⟩, ha, hc⟩ := List.mem_flatMap.mp hc
  simp only [List.mem_cons, List.mem_append, List.not_mem_nil, or_false] at hc
  rcases hc with rfl | hname | rfl | rfl | hvalue | rfl
  · decide
  · exact h _ ha c hname
  · decide
  · decide
  · obtain ⟨d, -, hcd⟩ := List.mem_flatMap.mp hvalue
    exact ne_bracket_of_mem_escapeValuePoint hcd
  · decide

theorem escapeText_append (s t : Text) : escapeText (s ++ t) = escapeText s ++ escapeText t :=
  List.flatMap_append

mutual

theorem leaves_writtenText :
    ∀ n : Node, n.IsTagged → (∀ m ∈ nodesOf n.children, m.IsTagged) →
      Markup.Leaves n.outerHtml (escapeText n.writtenText)
  | ⟨tag, attributes, children, text, claimed⟩ => by
      intro hown hall
      have hchildren : Markup.Leaves (innerHtmlOf children) (escapeText (writtenTexts children)) :=
        leaves_writtenTexts children hall
      have hstart : Markup.Leaves
          (.scalar '<' :: (tag ++ attributesHtml attributes ++ [.scalar '>'])) [] := by
        refine Markup.leaves_tag ?_
        intro c hc
        rcases List.mem_append.mp hc with htag | hattributes
        · exact hown.tag c htag
        · exact ne_bracket_of_mem_attributesHtml hown.attributes hattributes
      have hslash : ∀ c ∈ .scalar '/' :: tag, c ≠ .scalar '>' :=
        List.forall_mem_cons.mpr ⟨by decide, hown.tag⟩
      have hend : Markup.Leaves (.scalar '<' :: ((.scalar '/' :: tag) ++ [.scalar '>'])) [] :=
        Markup.leaves_tag hslash
      rw [outerHtml, writtenText]
      by_cases htext : tag = textTag
      · rw [if_pos htext, if_pos htext]
        exact leaves_escapeText text
      · rw [if_neg htext, if_neg htext]
        by_cases hroot : tag = rootTag
        · have hfull : ¬voidTags.contains tag := by
            rw [hroot]
            decide
          rw [if_pos hroot, if_neg hfull]
          exact hchildren
        · rw [if_neg hroot]
          dsimp only
          split
          · exact hstart
          · have hwhole := (hstart.append hchildren).append hend
            rw [List.nil_append, List.append_nil] at hwhole
            exact hwhole

theorem leaves_writtenTexts :
    ∀ ns : List Node, (∀ m ∈ nodesOf ns, m.IsTagged) →
      Markup.Leaves (innerHtmlOf ns) (escapeText (writtenTexts ns))
  | [] => fun _ => Markup.leaves_nil
  | n :: ns => by
      intro hall
      rw [nodesOf_cons] at hall
      obtain ⟨hown, hmore⟩ := List.forall_mem_cons.mp hall
      obtain ⟨hchildren, hrest⟩ := List.forall_mem_append.mp hmore
      rw [innerHtmlOf, writtenTexts, escapeText_append]
      exact (leaves_writtenText n hown hchildren).append (leaves_writtenTexts ns hrest)

end

mutual

/-- All text is written where the elements without an end tag hold nothing. -/
theorem writtenText_of_isWritten :
    ∀ n : Node, n.IsWritten → (∀ m ∈ nodesOf n.children, m.IsWritten) →
      n.writtenText = n.textContent
  | ⟨tag, attributes, children, text, claimed⟩ => by
      intro hown hall
      have hchildren : writtenTexts children = textContents children :=
        writtenTexts_of_isWritten children hall
      rw [writtenText, textContent]
      split
      · rfl
      · split
        · rename_i hvoid
          obtain rfl : children = [] := hown.childless hvoid
          rfl
        · exact hchildren

theorem writtenTexts_of_isWritten :
    ∀ ns : List Node, (∀ m ∈ nodesOf ns, m.IsWritten) → writtenTexts ns = textContents ns
  | [] => fun _ => rfl
  | n :: ns => by
      intro hall
      rw [nodesOf_cons] at hall
      obtain ⟨hown, hmore⟩ := List.forall_mem_cons.mp hall
      obtain ⟨hchildren, hrest⟩ := List.forall_mem_append.mp hmore
      rw [writtenTexts, textContents, writtenText_of_isWritten n hown hchildren,
        writtenTexts_of_isWritten ns hrest]

end

theorem IsWritten.isTagged {n : Node} (h : n.IsWritten) : n.IsTagged := ⟨h.tag, h.attributes⟩

theorem leaves_outerHtml (n : Node) (hown : n.IsWritten) (hall : ∀ m ∈ nodesOf n.children, m.IsWritten) :
    Markup.Leaves n.outerHtml (escapeText n.textContent) := by
  rw [← writtenText_of_isWritten n hown hall]
  exact leaves_writtenText n hown.isTagged fun m hm => (hall m hm).isTagged

theorem leaves_innerHtmlOf (ns : List Node) (hall : ∀ m ∈ nodesOf ns, m.IsWritten) :
    Markup.Leaves (innerHtmlOf ns) (escapeText (textContents ns)) := by
  rw [← writtenTexts_of_isWritten ns hall]
  exact leaves_writtenTexts ns fun m hm => (hall m hm).isTagged

/-! ## White space around markup -/

theorem escapeTextPoint_eq (c : CodePoint) :
    escapeTextPoint c = [c] ∨
      ∃ name, escapeTextPoint c = .scalar '&' :: (name ++ [.scalar ';']) := by
  unfold escapeTextPoint
  split
  · exact .inr ⟨"amp", rfl⟩
  · exact .inr ⟨"lt", rfl⟩
  · exact .inr ⟨"gt", rfl⟩
  · exact .inl rfl

theorem escapeText_eq_blank_append
    {t lead rest : Text} (h : escapeText t = lead ++ rest) (hlead : ∀ c ∈ lead, c.isBlank = true) :
    ∃ u, t = lead ++ u ∧ escapeText u = rest := by
  induction lead generalizing t with
  | nil => exact ⟨t, rfl, h⟩
  | cons b lead ih =>
      obtain ⟨hb, hblank⟩ := List.forall_mem_cons.mp hlead
      cases t with
      | nil => cases h
      | cons c t =>
          rw [escapeText, List.flatMap_cons, ← escapeText] at h
          rcases escapeTextPoint_eq c with hsame | ⟨name, hname⟩
          · rw [hsame] at h
            obtain ⟨rfl, htail⟩ := List.cons.inj h
            obtain ⟨u, rfl, hu⟩ := ih htail hblank
            exact ⟨u, rfl, hu⟩
          · rw [hname] at h
            obtain ⟨rfl, -⟩ := List.cons.inj h
            exact absurd hb (by decide)

theorem escapeText_eq_append_blank
    {t rest trail : Text} (h : escapeText t = rest ++ trail)
    (htrail : ∀ c ∈ trail, c.isBlank = true) :
    ∃ u, t = u ++ trail ∧ escapeText u = rest := by
  induction trail using List.reverseRecOn generalizing t with
  | nil => exact ⟨t, t.append_nil.symm, h.trans rest.append_nil⟩
  | append_singleton trail b ih =>
      obtain ⟨hblank, hb⟩ := List.forall_mem_append.mp htrail
      have hb := hb b (.head _)
      rw [← List.append_assoc] at h
      rcases t.eq_nil_or_concat' with rfl | ⟨s, c, rfl⟩
      · exact absurd h.symm (List.append_ne_nil_of_right_ne_nil _ nofun)
      · have hlast : escapeText [c] = escapeTextPoint c := List.flatMap_singleton _ _
        rw [escapeText_append, hlast] at h
        rcases escapeTextPoint_eq c with hsame | ⟨name, hname⟩
        · rw [hsame] at h
          obtain ⟨hfront, hcb⟩ := List.append_inj' h rfl
          obtain rfl := List.singleton_inj.mp hcb
          obtain ⟨u, rfl, hu⟩ := ih hfront hblank
          exact ⟨u, List.append_assoc _ _ _, hu⟩
        · rw [hname, ← List.cons_append, ← List.append_assoc] at h
          obtain ⟨-, hcb⟩ := List.append_inj' h rfl
          obtain rfl := List.singleton_inj.mp hcb
          exact absurd hb (by decide)

/-- Markup shows the same when it is stripped. -/
theorem visible_plainText_strip {markup t : Text} (h : Markup.Leaves markup (escapeText t)) :
    (Markup.plainText markup.strip).visible = t.visible := by
  obtain ⟨lead, trail, hmarkup, hlead, htrail⟩ := markup.eq_append_strip_append
  obtain ⟨more, hmore, hmem⟩ := Markup.withoutTags_append false markup.strip trail
  have hfree : ∀ c ∈ lead, c ≠ .scalar '<' := by
    rintro c hc rfl
    exact absurd (hlead _ hc) (by decide)
  have hleaves : escapeText t = lead ++ (Markup.withoutTags false markup.strip ++ more) := by
    rw [← h.withoutTags_eq, ← hmore, ← Markup.leaves_self hfree, ← hmarkup]
  -- No reference begins or ends with white space, so it was there before the text was escaped.
  obtain ⟨u, rfl, hu⟩ := escapeText_eq_blank_append hleaves hlead
  obtain ⟨v, rfl, hv⟩ := escapeText_eq_append_blank hu fun c hc => htrail c (hmem c hc)
  have hplain : Markup.plainText markup.strip = v := by
    rw [Markup.plainText, ← hv, Markup.decodeReferences_escapeText]
  rw [hplain, Text.visible_append, Text.visible_append, Text.visible_eq_nil_of_blank hlead,
    Text.visible_eq_nil_of_blank fun c hc => htrail c (hmem c hc), List.nil_append, List.append_nil]

/-- The markup of a node shows the text of the node. -/
theorem plainText_outerHtml
    {n : Node} (hown : n.IsWritten) (hall : ∀ m ∈ nodesOf n.children, m.IsWritten) :
    Markup.plainText n.outerHtml = n.textContent := by
  rw [Markup.plainText, (leaves_outerHtml n hown hall).withoutTags_eq,
    Markup.decodeReferences_escapeText]

theorem visible_plainText_innerHtml_strip
    {n : Node} (hall : ∀ m ∈ nodesOf n.children, m.IsWritten) :
    (Markup.plainText n.innerHtml.strip).visible = (textContents n.children).visible :=
  visible_plainText_strip (leaves_innerHtmlOf n.children hall)

end Node

end ArticleExport
