import ArticleExport.Proofs.Article.Documents
import ArticleExport.Proofs.Article.Naming
import ArticleExport.Proofs.Push.Sent

/-!
# The bundles that a push sends

Where pictures are bundled, each photo that is sent refers to a bundle by a file name.  The
references are made while the content is looked at, from whatever address a picture has, but of
the addresses only those of files on the web are sent.  So a reference leads somewhere just if it
has a file name, and a picture of that file name is on the web.
-/

namespace ArticleExport

/-- Whether a text is the address of a file on the web. -/
def Address.leadsToWeb (t : Text) : Bool := (read t).toOption.any isWeb

/-! ## Clean bundles -/

theorem mem_of_cleanFrom {found urls cleaned : List Text} (h : cleanFrom found urls = .ok cleaned)
    {u : Text} :
    u ∈ cleaned ↔ u ∈ found ∨ (u ∈ urls ∧ Address.leadsToWeb u = true) := by
  induction urls generalizing found with
  | nil =>
      cases h
      simp
  | cons t ts ih =>
      obtain ⟨a, ha, hrest⟩ := exceptBind_eq_ok h
      have hweb : Address.leadsToWeb t = a.isWeb := by
        rw [Address.leadsToWeb, ha]
        rfl
      have hstep : u ∈ (if a.isWeb && !found.contains t then found ++ [t] else found) ↔
          u ∈ found ∨ (u = t ∧ Address.leadsToWeb t = true) := by
        rw [hweb]
        by_cases hknown : t ∈ found
        · cases a.isWeb <;> simp [hknown]
          rintro rfl
          exact hknown
        · cases a.isWeb <;> simp [hknown]
      rw [ih hrest, hstep, List.mem_cons, or_assoc]
      refine or_congr_right ⟨?_, ?_⟩
      · rintro (⟨rfl, ht⟩ | ⟨hts, hu⟩)
        · exact ⟨.inl rfl, ht⟩
        · exact ⟨.inr hts, hu⟩
      · rintro ⟨rfl | hts, hu⟩
        · exact .inl ⟨rfl, hu⟩
        · exact .inr ⟨hts, hu⟩

/-- The bundles that are sent are those on the web. -/
theorem mem_of_cleanBundles {urls cleaned : List Text} (h : cleanBundles urls = .ok cleaned)
    {u : Text} :
    u ∈ cleaned ↔ u ∈ urls ∧ Address.leadsToWeb u = true := by
  rw [mem_of_cleanFrom h]
  simp

theorem not_leadsToWeb_nil : Address.leadsToWeb [] = false := rfl

/-! ## References -/

/-- Whether there is a file name in a reference, and one of the bundles is a file of that name. -/
def HasBundle (bundles : List Text) (reference : Text) : Prop :=
  ∃ name, reference = Component.bundleScheme ++ name ∧ name ≠ [] ∧
    ∃ u ∈ bundles, Address.fileName u = .ok name

theorem hasBundle_bundledAddress_iff {bundles : List Text} {u : Text}
    (hu : (Address.fileName u).isOk = true) :
    HasBundle bundles (bundledAddress u) ↔
      Address.fileName u ≠ .ok [] ∧ ∃ v ∈ bundles, Address.fileName v = Address.fileName u := by
  obtain ⟨name, hname⟩ := exists_of_isOk hu
  have haddress : bundledAddress u = Component.bundleScheme ++ name := by
    rw [bundledAddress, hname]
    rfl
  rw [haddress, hname]
  constructor
  · rintro ⟨name', hsame, hne, v, hv, hvname⟩
    obtain rfl := List.append_cancel_left hsame
    exact ⟨fun hempty => hne (Except.ok.inj hempty), v, hv, hvname⟩
  · rintro ⟨hne, v, hv, hvname⟩
    exact ⟨name, rfl, fun hempty => hne (congrArg Except.ok hempty), v, hv, hvname⟩

/-- What is sent of an article with bundled pictures, in terms of the addresses that the pictures of
the item have. -/
structure SendsPictures (document : Table Json) (bundles pictures : List Text) : Prop where
  references : photoUrls document = pictures.map bundledAddress
  kept : ∀ u, u ∈ bundles ↔ u ∈ pictures ∧ Address.leadsToWeb u = true
  hasBundle : ∀ u ∈ pictures, HasBundle bundles (bundledAddress u) ↔
    Address.fileName u ≠ .ok [] ∧
      ∃ v ∈ pictures, Address.leadsToWeb v = true ∧ Address.fileName v = Address.fileName u

theorem ExportResult.IsBundlingOf.sendsPictures
    {bundled remote : ExportResult} (h : bundled.IsBundlingOf remote)
    (hrole : isPhoto remote.article = false) {document : Table Json} {bundles : List Text}
    (hphotos : photoUrls document = photoUrls bundled.article)
    (hcleaned : cleanBundles bundled.bundles = .ok bundles) :
    SendsPictures document bundles (photoUrls remote.article) := by
  have hnames := h.namesPicturesOf hrole
  have hbundles (u : Text) :
      u ∈ bundles ↔ u ∈ photoUrls remote.article ∧ Address.leadsToWeb u = true := by
    rw [mem_of_cleanBundles hcleaned, hnames.bundles, and_assoc]
    refine and_congr_right fun _ => ⟨And.right, fun hweb => ⟨?_, hweb⟩⟩
    rintro rfl
    rw [not_leadsToWeb_nil] at hweb
    cases hweb
  refine ⟨hphotos.trans hnames.references, hbundles, fun u hu => ?_⟩
  rw [hasBundle_bundledAddress_iff (h.named u hu)]
  simp only [hbundles, and_assoc]

/-! ## Pushes -/

namespace PushSetup

variable {σ : Type}

/-- Where pictures are bundled, whatever a push sends refers to the pictures of its item by their
file names.  A reference has its bundle just if there is a file name, and a picture of the item
under that file name is on the web. -/
theorem sendsPictures_of_sent
    (p : PushSetup σ) (hvariants : p.variants = Variant.standard) (hspecs : p.specs = .empty)
    {id : Text} {scheduled : Bool} {w : World σ} (hbundling : w.settings.useRemoteImages = false)
    (htheme : ∀ c, w.content? id = some c → (p.themes.used c.sections).HasNoTemplates)
    {call : ServiceCall} (hcall : call ∈ p.calls id scheduled w) {sent : Json × List Text}
    (hsent : call.sent? = some sent) :
    ∃ c document bundles remote, w.content? id = some c ∧ sent = (.obj document, bundles) ∧
      (p.assembler { w.settings with useRemoteImages := true }).export c = .ok remote ∧
      SendsPictures document bundles (photoUrls remote.article) := by
  obtain ⟨c, root, result, document, bundles, hc, hpair, hexports⟩ := p.exports_of_sent hcall hsent
  have hsettings : { w.settings with useRemoteImages := false } = w.settings := by
    rw [← hbundling]
  have hassembled : (Setup.bundling w.settings (p.themes.used c.sections)).assemble root c.info =
      .ok result := by
    have hown := hexports.assembled
    rw [assembler, hvariants, hspecs, ← hsettings] at hown
    exact hown
  obtain ⟨remote, hremote, hbundled⟩ := Setup.exists_linking_of_bundling (htheme c hc) hassembled
  have hexported : (p.assembler { w.settings with useRemoteImages := true }).export c =
      .ok remote := by
    rw [Assembler.export, hexports.read, assembler, hvariants, hspecs]
    exact hremote
  obtain ⟨hpart, hrole⟩ := Setup.isPart_of_assemble hassembled
  have hphotos := photoUrls_of_validateDocument hrole hpart
    (Setup.areParts_of_assemble (htheme c hc) hassembled) hexports.valid
  exact ⟨c, document, bundles, remote, hc, hpair, hexported,
    hbundled.sendsPictures (Setup.isPart_of_assemble hremote).2 hphotos hexports.cleaned⟩

/-- Settings under which pictures are bundled. -/
def bundlingSettings : Settings := { Settings.ofAccount false with useRemoteImages := false }

/-- An item with a picture beside the page. -/
def itemWithPicture : Content :=
  { Content.blank "1" with html := "<p>x</p><img src=\"/img/a.png\">" }

theorem exists_sent_of_itemWithPicture :
    ∃ call ∈ newsroom.calls "1" false (firstWorld bundlingSettings itemWithPicture),
      ∃ document, call.sent? = some (.obj document, []) ∧
        photoUrls document = ["bundle://a.png"] := by
  have hpasses : (newsroom.shipmentOf bundlingSettings itemWithPicture).toOption.any (fun s =>
      isWritable s && (photoUrls s.document == ["bundle://a.png"] && s.bundles.isEmpty)) = true := by
    decide +kernel
  obtain ⟨s, hs, hholds⟩ := exists_of_holds hpasses
  simp only [Bool.and_eq_true, beq_iff_eq, List.isEmpty_iff] at hholds
  obtain ⟨hwritable, hreferences, hbundles⟩ := hholds
  have hid : itemWithPicture.id = .text "1" := rfl
  obtain ⟨call, hcall, hsent⟩ := exists_sent_of_isWritable rfl rfl hid rfl rfl hs hwritable
  rw [hbundles] at hsent
  exact ⟨call, hcall, s.document, hsent, hreferences⟩

theorem sendsPictures_of_itemWithPicture :
    ∃ call ∈ newsroom.calls "1" false (firstWorld bundlingSettings itemWithPicture),
      ∃ sent, call.sent? = some sent ∧
        ∃ c document bundles remote,
          (firstWorld bundlingSettings itemWithPicture).content? "1" = some c ∧
          sent = (.obj document, bundles) ∧
          (newsroom.assembler { bundlingSettings with useRemoteImages := true }).export c =
            .ok remote ∧
          SendsPictures document bundles (photoUrls remote.article) := by
  obtain ⟨call, hcall, document, hsent, -⟩ := exists_sent_of_itemWithPicture
  have htheme : ∀ c, (firstWorld bundlingSettings itemWithPicture).content? "1" = some c →
      (newsroom.themes.used c.sections).HasNoTemplates :=
    fun c _ => ThemeStore.hasNoTemplates_initial c.sections
  exact ⟨call, hcall, _, hsent, sendsPictures_of_sent newsroom rfl rfl rfl htheme hcall hsent⟩

/-- A photo of a picture beside the page is sent with a reference that leads nowhere. -/
theorem not_hasBundle_of_itemWithPicture :
    bundlingSettings.useRemoteImages = false ∧
    ∃ call ∈ newsroom.calls "1" false (firstWorld bundlingSettings itemWithPicture),
      ∃ document bundles, call.sent? = some (.obj document, bundles) ∧
        ("bundle://a.png" : Text) ∈ photoUrls document ∧ ¬HasBundle bundles "bundle://a.png" := by
  obtain ⟨call, hcall, document, hsent, hreferences⟩ := exists_sent_of_itemWithPicture
  refine ⟨rfl, call, hcall, document, [], hsent, ?_, ?_⟩
  · rw [hreferences]
    exact .head _
  · rintro ⟨name, -, -, u, hu, -⟩
    exact List.not_mem_nil hu

end PushSetup

end ArticleExport
