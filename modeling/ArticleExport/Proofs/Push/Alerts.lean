import ArticleExport.Proofs.Article.Assembly
import ArticleExport.Proofs.Component.Matching
import ArticleExport.Proofs.Push.Sent
import ArticleExport.Proofs.Walk.Reach

/-!
# What passes under the strictest policy

Under the strictest policy for alerts a push sends nothing of an export that has issues, and an
issue is entered for each unsupported element that the walk looks at and makes nothing of.  So
wherever there is an unsupported element in content that was sent, something else stands for it:
the element is an aside, or it went along inside of a node that the walk has taken whole.
-/

namespace ArticleExport

namespace Setup

variable {s : Setup}

theorem issues_module (s : Setup) : s.module.ledger.issues = [] := by
  have hbuild : (s.create .inArticle (.element "div" [] [])).build s =
      s.finish (s.create .inArticle (.element "div" [] [])) [] :=
    make_of_not_isParent (c := s.create .inArticle (.element "div" [] [])) Bool.false_ne_true
      (.done [])
  rw [module, hbuild]
  exact Making.issues_steps _ _ _

/-- The issues of an export are those of the elements of the content that the walk rejects. -/
theorem issues_components (hloose : s.keepsLooseText = true) {root : Node} {cs : List Component}
    (h : (s.components root).result = .ok cs) :
    (s.components root).ledger.issues =
      ((s.reachedOf root.children).filter s.rejects).map issueOf := by
  have hstages : s.components root = s.tagStyles.andThen fun _ : PUnit =>
      (s.walkAll root.children).andThen fun cs =>
        s.module.andThen fun module =>
          .done (insertModule s.settings.inArticlePosition module cs) := rfl
  rw [hstages] at h ⊢
  obtain ⟨_, -, hwalked, hstyles⟩ := Work.andThen_result_eq_ok h
  obtain ⟨ds, hds, hmodule, hwalk⟩ := Work.andThen_result_eq_ok hwalked
  obtain ⟨module, -, -, hrest⟩ := Work.andThen_result_eq_ok hmodule
  have hissues := issues_of_yields hloose (yields_of_walkAll root.children hds)
  obtain ⟨styles, htagStyles⟩ := s.tagStyles_ledger
  rw [hstyles, hwalk, hrest, htagStyles]
  simp only [Ledger.merge, issues_module, hissues]
  simp [Ledger.empty, Work.done]

theorem issues_of_assemble (hloose : s.keepsLooseText = true) {root : Node} {info : ArticleInfo}
    {r : ExportResult} (h : s.assemble root info = .ok r) :
    r.issues = ((s.reachedOf root.children).filter s.rejects).map issueOf := by
  obtain ⟨cs, a, hcs, -, rfl⟩ := assemble_eq_ok h
  exact issues_components hloose hcs

/-- Whether something else stands for an element of a content tree: it is an aside, or it is inside
of a node that a walk takes whole. -/
def Covers (s : Setup) (root x : Node) : Prop :=
  (x ∈ s.reachedOf root.children ∧ s.match? x = some (.aside, x)) ∨
    ∃ y ∈ s.reachedOf root.children, s.TakesWhole y ∧ x ∈ Node.nodesOf y.children

/-- What a standard variant takes of the unsupported elements is an aside. -/
theorem match?_eq_aside (hvariants : s.variants = Variant.standard) {n : Node}
    (htag : unsupportedTags.contains n.tag = true) (h : s.rejects n = false) :
    s.match? n = some (.aside, n) := by
  have helement : n.isText = false := by
    have hnotText : ∀ tag ∈ unsupportedTags, (tag == Node.textTag) = false := by decide
    exact hnotText n.tag (List.contains_iff_mem.mp htag)
  cases hmatch : s.match? n with
  | none =>
      simp only [rejects, helement, hmatch, htag] at h
      cases h
  | some found =>
      obtain ⟨v, m⟩ := found
      obtain ⟨hv, hkind⟩ := of_match?_eq_some hmatch
      rw [hvariants] at hv
      have haside := Kind.eq_aside_of_unsupported hkind htag
      obtain rfl : v = .aside := Variant.eq_of_kind_eq hv (by decide) haside
      rw [Kind.eq_of_match? hkind (by decide)]

/-- Where an export has no issues, something else stands for each unsupported element. -/
theorem covers_of_no_issues (hvariants : s.variants = Variant.standard)
    (hloose : s.keepsLooseText = true) {root : Node} {info : ArticleInfo} {r : ExportResult}
    (h : s.assemble root info = .ok r) (hissues : r.issues = []) {x : Node}
    (hx : x ∈ Node.nodesOf root.children) (htag : unsupportedTags.contains x.tag = true) :
    s.Covers root x := by
  rw [issues_of_assemble hloose h, List.map_eq_nil_iff, List.filter_eq_nil_iff] at hissues
  have hkept : ∀ y ∈ s.reachedOf root.children, s.rejects y = false :=
    fun y hy => Bool.eq_false_iff.mpr (hissues y hy)
  rcases reached_or_inside (s := s) hx with hreached | ⟨y, hy, hrejects | hwhole, hinside⟩
  · exact .inl ⟨hreached, match?_eq_aside hvariants htag (hkept x hreached)⟩
  · rw [hkept y hy] at hrejects
    cases hrejects
  · exact .inr ⟨y, hy, hwhole, hinside⟩

end Setup

/-! ## Pushes -/

namespace PushSetup

/-- The strictest policy lets nothing pass about which the user would be told. -/
theorem eq_nil_of_alerts
    {settings : Settings} (hfail : settings.componentAlerts = .fail) {names messages : List Text}
    (h : alerts settings names = .ok messages) :
    names = [] := by
  cases names with
  | nil => rfl
  | cons name names =>
      rw [alerts, hfail] at h
      cases h

variable {σ : Type}

/-- Under the strictest policy, whatever a push sends is of content in which each unsupported
element is an aside or inside of a node that was taken whole. -/
theorem covers_unsupported_of_sent
    (p : PushSetup σ) (hvariants : p.variants = Variant.standard) {id : Text} {scheduled : Bool}
    {w : World σ} (hfail : w.settings.componentAlerts = .fail) {call : ServiceCall}
    (hcall : call ∈ p.calls id scheduled w) (hsent : call.sent?.isSome = true) :
    ∃ c root, w.content? id = some c ∧ Node.parse c.html = .ok root ∧
      ∀ x ∈ Node.nodesOf root.children, unsupportedTags.contains x.tag = true →
        ((p.assembler w.settings).setup c.sections).Covers root x := by
  obtain ⟨sent, hsent⟩ := Option.isSome_iff_exists.mp hsent
  obtain ⟨c, root, result, document, bundles, hc, -, hexports⟩ := p.exports_of_sent hcall hsent
  obtain ⟨messages, htold⟩ := hexports.told
  have hissues : result.issues = [] := List.map_eq_nil_iff.mp (eq_nil_of_alerts hfail htold)
  have hsetup : ((p.assembler w.settings).setup c.sections).variants = Variant.standard := hvariants
  exact ⟨c, root, hc, hexports.read, fun x hx htag =>
    Setup.covers_of_no_issues hsetup rfl hexports.assembled hissues hx htag⟩

/-- Settings under the strictest policy. -/
def strictSettings : Settings := { Settings.ofAccount false with componentAlerts := .fail }

/-- An item with a video inside of a paragraph. -/
def itemWithVideo : Content :=
  { Content.blank "1" with html := "<p>see <video src=\"v.mp4\"></video></p>" }

theorem exists_sent_of_itemWithVideo :
    ∃ call ∈ newsroom.calls "1" false (firstWorld strictSettings itemWithVideo),
      call.sent?.isSome = true := by
  have hpasses : (newsroom.shipmentOf strictSettings itemWithVideo).toOption.any isWritable =
      true := by
    decide +kernel
  obtain ⟨s, hs, hwritable⟩ := exists_of_holds hpasses
  have hid : itemWithVideo.id = .text "1" := rfl
  obtain ⟨call, hcall, hsent⟩ := exists_sent_of_isWritable rfl rfl hid rfl rfl hs hwritable
  exact ⟨call, hcall, Option.isSome_iff_exists.mpr ⟨_, hsent⟩⟩

/-- The video of an item that was sent is covered by its paragraph. -/
theorem covers_unsupported_of_itemWithVideo :
    ∃ call ∈ newsroom.calls "1" false (firstWorld strictSettings itemWithVideo),
      call.sent?.isSome = true ∧
      ∃ c root, (firstWorld strictSettings itemWithVideo).content? "1" = some c ∧
        Node.parse c.html = .ok root ∧
        ∀ x ∈ Node.nodesOf root.children, unsupportedTags.contains x.tag = true →
          ((newsroom.assembler strictSettings).setup c.sections).Covers root x := by
  obtain ⟨call, hcall, hsent⟩ := exists_sent_of_itemWithVideo
  exact ⟨call, hcall, hsent, covers_unsupported_of_sent newsroom rfl rfl hcall hsent⟩

/-- Under the strictest policy an item is sent that has a video. -/
theorem sent_of_video_in_paragraph :
    strictSettings.componentAlerts = .fail ∧
    (∃ call ∈ newsroom.calls "1" false (firstWorld strictSettings itemWithVideo),
      call.sent?.isSome = true) ∧
    ∃ root, Node.parse itemWithVideo.html = .ok root ∧
      ∃ x ∈ Node.nodesOf root.children, unsupportedTags.contains x.tag = true := by
  have hparsed : (Node.parse itemWithVideo.html).toOption.any (fun root =>
      (Node.nodesOf root.children).any fun x => unsupportedTags.contains x.tag) = true := by
    decide +kernel
  obtain ⟨root, hroot, hany⟩ := exists_of_holds hparsed
  exact ⟨rfl, exists_sent_of_itemWithVideo, root, hroot, List.any_eq_true.mp hany⟩

end PushSetup

end ArticleExport
