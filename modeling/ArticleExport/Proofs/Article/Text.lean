import ArticleExport.Proofs.Article.Anchors
import ArticleExport.Proofs.Article.Assembly
import ArticleExport.Proofs.Component.Matching

/-!
# The text of an article is the text of its content

Every code point of the content that shows stands in the text of exactly one fragment,
and the fragments stand in the order of the content.  Text reaches a fragment in several
ways: with the element around it, without it, as loose text, or in the fragments inside
an aside.  What is left out in each of them is white space.

Figures, footnotes and elements that the format cannot show are set apart, since a
caption is no text of a fragment, notes are numbered, and the last are left out.
-/

namespace ArticleExport

/-! ## What fragments show -/

/-- What the text of a fragment shows as markup. -/
def Json.shownText (f : Json) : Text :=
  match f.field? "text" with
  | some (.str markup) => Markup.plainText markup
  | _ => []

/-- What the texts of a component and of the components inside it show. -/
def Component.shownText (c : Component) : Text := c.fragments.flatMap Json.shownText

/-- What the texts of an article show, at every depth and in order. -/
def articleText (article : Table Json) : Text := (allFragments article).flatMap Json.shownText

theorem Json.shownText_of_none {f : Json} (h : f.field? "text" = none) : f.shownText = [] := by
  rw [shownText, h]

theorem flatMap_shownText_fragments
    {json : Table Json} (h : Table.get? componentsKey json = none) :
    (Json.obj json).fragments.flatMap Json.shownText = (Json.obj json).shownText := by
  rw [Json.fragments_obj, Json.fragmentsUnder_of_get?_eq_none h, List.flatMap_singleton]

theorem fragmentsOf_map_fragment (cs : List Component) :
    Json.fragmentsOf (cs.map Component.fragment) = cs.flatMap Component.fragments := by
  induction cs with
  | nil => rfl
  | cons c cs ih => rw [List.map_cons, Json.fragmentsOf, ih, List.flatMap_cons, Component.fragments]

theorem flatMap_shownText_fragmentsOf (cs : List Component) :
    (Json.fragmentsOf (cs.map Component.fragment)).flatMap Json.shownText =
      cs.flatMap Component.shownText := by
  rw [fragmentsOf_map_fragment, List.flatMap_assoc]
  rfl

/-! ## Nodes whose text is carried over -/

/-- Whether the text of a node goes into the texts of fragments as it is. -/
structure Node.IsCarried (n : Node) : Prop extends n.IsWritten where
  notFigure : n.tag ≠ "figure"
  supported : ¬unsupportedTags.contains n.tag
  notFootnotes : ¬(n.tag = "ol" ∧ n.hasClass Kind.footnotesClass)

instance (n : Node) : Decidable n.IsCarried :=
  decidable_of_iff
    (n.IsWritten ∧ n.tag ≠ "figure" ∧ ¬unsupportedTags.contains n.tag ∧
      ¬(n.tag = "ol" ∧ n.hasClass Kind.footnotesClass))
    ⟨fun ⟨hwritten, hfigure, hsupported, hfootnotes⟩ => ⟨hwritten, hfigure, hsupported, hfootnotes⟩,
      fun h => ⟨h.toIsWritten, h.notFigure, h.supported, h.notFootnotes⟩⟩

theorem Node.textContent_of_not_isText {n : Node} (h : ¬n.isText) :
    n.textContent = textContents n.children := by
  obtain ⟨tag, attributes, children, text, claimed⟩ := n
  have htag : ¬tag = textTag := fun heq => h (beq_iff_eq.mpr heq)
  rw [textContent, if_neg htag]

theorem Node.textContents_singleton (n : Node) : textContents [n] = n.textContent := by
  rw [textContents, textContents, List.append_nil]

/-- An element that becomes a photo shows no text. -/
theorem Kind.visible_textContent_of_image
    {settings : Settings} {n m : Node} (h : Kind.image.match? settings n = some m)
    (helement : ¬n.isText) (hcarried : n.IsCarried) :
    n.textContent.visible = [] := by
  rw [Node.textContent_of_not_isText helement]
  simp only [match?, hcarried.notFigure, false_and, if_false] at h
  split at h
  · rename_i himage
    rw [hcarried.childless (himage ▸ by decide), Node.textContents]
    rfl
  · split at h
    · obtain ⟨hsingle, -⟩ := Option.filter_eq_some_iff.mp h
      refine Text.visible_eq_nil_of_not_isVisible ?_
      obtain ⟨tag, attributes, children, text, claimed⟩ := n
      rw [singleImage?] at hsingle
      split at hsingle
      · cases hsingle
      · rename_i hinvisible
        exact Bool.eq_false_iff.mpr hinvisible
    · cases h

/-! ## One component -/

theorem shownText_textFields
    {role markup : Text} {more : Table Json} (hmore : Table.get? componentsKey more = none) :
    (Json.obj (textFields role (.str markup) more)).fragments.flatMap Json.shownText =
      Markup.plainText markup :=
  flatMap_shownText_fragments hmore

theorem shownText_photoFields (n : Node) (address layout : Text) :
    (Json.obj (photoFields n address layout)).fragments.flatMap Json.shownText = [] := by
  have htext : (Json.obj (photoFields n address layout)).field? "text" = none :=
    get?_photoFields (by decide) n address layout
  rw [flatMap_shownText_fragments (get?_photoFields (by decide) n address layout),
    Json.shownText_of_none htext]

/-- A component without others inside shows the text of the node that it was made for. -/
theorem visible_shownText_of_makes
    {settings : Settings} {theme : Theme} {k : Kind} {n m : Node} {json : Table Json} {l : Ledger}
    (h : k.Makes settings theme m [] json l) (hmatch : k.match? settings n = some m)
    (hplain : k ≠ .aside) (helement : ¬n.isText) (hcarried : n.IsCarried)
    (hinside : ∀ x ∈ Node.nodesOf n.children, x.IsWritten) :
    Text.visible ((Json.obj json).fragments.flatMap Json.shownText) = n.textContent.visible := by
  have hinner : (Markup.plainText n.innerHtml.strip).visible = n.textContent.visible := by
    rw [Node.textContent_of_not_isText helement]
    exact Node.visible_plainText_innerHtml_strip hinside
  cases h with
  | body =>
      obtain rfl := Kind.eq_of_match? hmatch (by decide)
      have hshown := Node.plainText_outerHtml hcarried.toIsWritten hinside
      exact congrArg Text.visible ((shownText_textFields rfl).trans hshown)
  | heading isLevel isStyle =>
      obtain rfl := Kind.eq_of_match? hmatch (by decide)
      exact (congrArg Text.visible (shownText_textFields rfl)).trans hinner
  | divider =>
      have hrule : n.tag = "hr" := by
        by_contra hother
        rw [Kind.match?, if_neg hother] at hmatch
        cases hmatch
      rw [flatMap_shownText_fragments rfl, Node.textContent_of_not_isText helement,
        hcarried.childless (hrule ▸ by decide), Node.textContents]
      rfl
  | remotePhoto isPicture isRemote =>
      rw [shownText_photoFields, Kind.visible_textContent_of_image hmatch helement hcarried]
      rfl
  | bundledPhoto isPicture isBundled isName =>
      rw [shownText_photoFields, Kind.visible_textContent_of_image hmatch helement hcarried]
      rfl
  | pullquote isPulled =>
      obtain rfl := Kind.eq_of_match? hmatch (by decide)
      rw [pulledFrom, if_neg hcarried.notFigure] at isPulled
      split at isPulled
      · obtain rfl := Option.some.inj isPulled
        exact (congrArg Text.visible (shownText_textFields rfl)).trans hinner
      · cases isPulled
  | blockquote spec isBlock =>
      obtain rfl := Kind.eq_of_match? hmatch (by decide)
      exact (congrArg Text.visible (shownText_textFields rfl)).trans hinner
  | footnotes =>
      refine absurd ?_ hcarried.notFootnotes
      by_contra hother
      rw [Kind.match?, if_neg hother] at hmatch
      cases hmatch
  | aside => exact (hplain rfl).elim

/-- Loose text goes into a paragraph as it is. -/
theorem visible_shownText_of_loose
    {settings : Settings} {theme : Theme} {n : Node} {json : Table Json} {l : Ledger}
    (h : Kind.body.Makes settings theme (.element "p" [] [n]) [] json l)
    (hwritten : ∀ x ∈ Node.nodesOf [n], x.IsWritten) :
    Text.visible ((Json.obj json).fragments.flatMap Json.shownText) = n.textContent.visible := by
  have htag : (Node.element "p" [] [n]).tag = "p" := rfl
  have hparagraph : (Node.element "p" [] [n]).IsWritten := by
    refine ⟨?_, nofun, ?_⟩
    · rw [htag]
      decide
    · intro hvoid
      rw [htag] at hvoid
      exact absurd hvoid (by decide)
  have htext : (Node.element "p" [] [n]).textContent = n.textContent := by
    rw [Node.textContent_of_not_isText (by rw [Node.isText, htag]; decide)]
    exact n.textContents_singleton
  cases h with
  | body =>
      have hshown := Node.plainText_outerHtml hparagraph hwritten
      exact congrArg Text.visible (((shownText_textFields rfl).trans hshown).trans htext)

/-- An aside shows what is inside it. -/
theorem shownText_of_aside
    {settings : Settings} {theme : Theme} {n : Node} {cs : List Component} {json : Table Json}
    {l : Ledger} (h : Kind.aside.Makes settings theme n (cs.map Component.fragment) json l) :
    (Json.obj json).fragments.flatMap Json.shownText = cs.flatMap Component.shownText := by
  generalize hparts : cs.map Component.fragment = parts at h
  cases h with
  | aside =>
      rw [Json.fragments_obj, Json.fragmentsUnder_of_get?_eq_some rfl, List.flatMap_cons,
        Json.shownText_of_none rfl, List.nil_append, ← hparts, flatMap_shownText_fragmentsOf]

/-! ## The walk -/

/-- The components that the walk yields show the text of the nodes, in the same order. -/
theorem visible_shownText_of_yields
    {settings : Settings} {theme : Theme} (htheme : theme.HasNoTemplates) {ns : List Node}
    {cs : List Component} {l : Ledger} (h : (Setup.standard settings theme).Yields ns cs l)
    (hcarried : ∀ n ∈ Node.nodesOf ns, n.IsCarried) :
    Text.visible (cs.flatMap Component.shownText) = (Node.textContents ns).visible := by
  have hsplit {n : Node} {ns : List Node} (hall : ∀ m ∈ Node.nodesOf (n :: ns), m.IsCarried) :
      n.IsCarried ∧ (∀ m ∈ Node.nodesOf n.children, m.IsCarried) ∧
        ∀ m ∈ Node.nodesOf ns, m.IsCarried := by
    rw [Node.nodesOf_cons] at hall
    obtain ⟨hown, hmore⟩ := List.forall_mem_cons.mp hall
    exact ⟨hown, List.forall_mem_append.mp hmore⟩
  induction h with
  | nil => rfl
  | @cons n ns cs ds l m first rest ihfirst ihrest =>
      obtain ⟨hown, hinside, hrest⟩ := hsplit hcarried
      have hfirst : ∀ m ∈ Node.nodesOf [n], m.IsCarried := by
        rw [Node.nodesOf_cons]
        exact List.forall_mem_cons.mpr ⟨hown, List.forall_mem_append.mpr ⟨hinside, nofun⟩⟩
      rw [List.flatMap_append, Text.visible_append, ihfirst hfirst, ihrest hrest,
        Node.textContents_singleton, Node.textContents, Text.visible_append]
  | @blank n isText dropped =>
      have hinvisible : n.hasVisibleText = false :=
        Bool.eq_false_iff.mpr fun hvisible => dropped ⟨hvisible, rfl⟩
      rw [Node.textContents_singleton, Text.visible_eq_nil_of_not_isVisible hinvisible]
      rfl
  | @loose n c l visible inText builds =>
      obtain ⟨hmakes, -⟩ := builds.makes htheme (by decide) (.inr rfl)
      rw [List.flatMap_singleton, Node.textContents_singleton]
      exact visible_shownText_of_loose hmakes fun x hx => (hcarried x hx).toIsWritten
  | @unsupported n isElement unmatched tag => exact ((hsplit hcarried).1.supported tag).elim
  | @inside n cs l isElement unmatched supported notInText children ih =>
      rw [ih (hsplit hcarried).2.1, Node.textContents_singleton,
        Node.textContent_of_not_isText isElement]
  | @plain n m v c l isElement matched isPlain builds =>
      obtain ⟨hv, hmatch⟩ := Setup.of_match?_eq_some matched
      obtain ⟨hmakes, -⟩ := builds.makes htheme hv (.inr rfl)
      obtain ⟨hown, hinside, -⟩ := hsplit hcarried
      have hkind : v.kind ≠ .aside := fun haside => isPlain (beq_iff_eq.mpr haside)
      rw [List.flatMap_singleton, Node.textContents_singleton]
      exact visible_shownText_of_makes hmakes hmatch hkind isElement hown
        fun x hx => (hinside x hx).toIsWritten
  | @parent n m v cs c l k isElement matched isParent children builds ih =>
      -- The parts were made of the children of the node itself, whatever the aside is made of.
      have hv := (Setup.of_match?_eq_some matched).1
      obtain ⟨hmakes, -⟩ := builds.makes htheme hv (.inl isParent)
      have hkind : v.kind = .aside := beq_iff_eq.mp isParent
      rw [hkind] at hmakes
      have hshown : c.shownText = cs.flatMap Component.shownText := shownText_of_aside hmakes
      rw [List.flatMap_singleton, hshown, ih (hsplit hcarried).2.1, Node.textContents_singleton,
        Node.textContent_of_not_isText isElement]

/-! ## Anchors -/

/-- Setting another field than the text leaves the text of a component alone. -/
theorem Component.shownText_set
    (c : Component) {name : Text} (value : Json) (hcomponents : name ≠ componentsKey)
    (htext : name ≠ "text") :
    (c.set name value).shownText = c.shownText := by
  have hown : (c.set name value).fragment.shownText = c.fragment.shownText := by
    rw [Json.shownText, field?_set, if_neg htext, ← Json.shownText]
  rw [shownText, shownText, fragments_set c hcomponents, fragments_eq, List.flatMap_cons,
    List.flatMap_cons, hown]

namespace Anchoring

variable {theme : Theme} {a b : Anchoring}

/-- What the components show, one after the other. -/
def texts (a : Anchoring) : List Text := a.components.map Component.shownText

/-- Attaching a component changes no text. -/
theorem texts_attach {i : Nat} (h : attach theme a i = .ok b) : b.texts = a.texts := by
  refine map_attach ?_ h
  intro c value name hname
  have hother : name ≠ componentsKey ∧ name ≠ "text" := by
    have hall : ∀ touched ∈ touchedNames, touched ≠ componentsKey ∧ touched ≠ "text" := by decide
    exact hall name hname
  exact c.shownText_set value hother.1 hother.2

end Anchoring

/-! ## Articles -/

/-- Whatever the settings and the values of the theme: an article that comes about without
templates of the host or the theme shows the text of its content, with nothing lost, doubled or
moved. -/
theorem visible_articleText_of_assemble
    (settings : Settings) (themes : ThemeStore) (sections : List Key)
    (htheme : (themes.used sections).HasNoTemplates) (root : Node) (hroot : root.tag = Node.rootTag)
    (hcarried : ∀ n ∈ Node.nodesOf root.children, n.IsCarried) (info : ArticleInfo)
    (r : ExportResult)
    (h : (⟨settings, themes, Variant.standard, .empty⟩ : Assembler).assemble root sections info =
      .ok r) :
    (articleText r.article).visible = root.textContent.visible := by
  obtain ⟨cs, a, hcs, ha, rfl⟩ := Setup.assemble_eq_ok h
  obtain ⟨before, l, after, hyields, -⟩ := Setup.yields_of_components htheme hcs
  have hwalk := visible_shownText_of_yields htheme hyields hcarried
  have hanchored : a.components.flatMap Component.shownText = cs.flatMap Component.shownText := by
    have htexts : a.texts = cs.map Component.shownText :=
      Anchoring.foldlM_attach (motive := fun b => b.texts = cs.map Component.shownText)
        (fun hkept hattach => (Anchoring.texts_attach hattach).trans hkept) rfl ha
    rw [List.flatMap_def, List.flatMap_def]
    exact congrArg List.flatten htexts
  have harticle : articleText ((Setup.standard settings (themes.used sections)).article info
      ((Setup.standard settings (themes.used sections)).components root).ledger a.components
      a.layouts) = a.components.flatMap Component.shownText :=
    flatMap_shownText_fragmentsOf a.components
  have helement : ¬root.isText := by
    rw [Node.isText, hroot]
    decide
  calc
    _ = Text.visible (cs.flatMap Component.shownText) :=
      congrArg Text.visible (harticle.trans hanchored)
    _ = root.textContent.visible := by rw [hwalk, Node.textContent_of_not_isText helement]

/-- Text that is stripped, a picture in a paragraph, escaped text in an aside and loose text. -/
theorem visible_articleText_of_mixed_content :
    let assembler : Assembler :=
      ⟨{ Settings.default with asideClass := "box" }, .initial, Variant.standard, .empty⟩
    let picture : Node := .element "img" [("src", "x.png")] []
    let root : Node := .root [.element "h2" [] [.ofText " A "], .element "p" [] [picture],
      .element "div" [("class", "box")] [.ofText "B & <C>"], .ofText "D"]
    ∃ r, assembler.assemble root [] .default = .ok r ∧
      (articleText r.article).visible = "AB&<C>D" := by
  intro assembler picture root
  have hok : (assembler.assemble root [] .default).isOk = true := by decide +kernel
  have hcarried : ∀ n ∈ Node.nodesOf root.children, n.IsCarried := by decide +kernel
  have htext : root.textContent.visible = Text.ofString "AB&<C>D" := by decide +kernel
  refine (exists_of_isOk hok).imp ?_
  intro r hr
  have hshown := visible_articleText_of_assemble _ .initial [] rfl root rfl hcarried .default r hr
  exact ⟨hr, hshown.trans htext⟩

end ArticleExport
