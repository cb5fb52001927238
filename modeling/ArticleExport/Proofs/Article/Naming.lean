import ArticleExport.Proofs.Article.Bundling

/-!
# Which pictures a bundle name stands for

A photo names its picture by the last segment of the picture's address.  Host, directory
and query do not count, so pictures under one file name share their name, and a name stands
for one picture just as long as no two bundles end in the same file name.
-/

namespace ArticleExport

/-- What the names of bundled pictures are to the addresses that the same export shows where
pictures are remote. -/
structure ExportResult.NamesPicturesOf (bundled remote : ExportResult) : Prop where
  references : photoUrls bundled.article = (photoUrls remote.article).map bundledAddress
  bundles : ∀ url, url ∈ bundled.bundles ↔ url ∈ photoUrls remote.article ∧ url ≠ []
  shared : ∀ u ∈ photoUrls remote.article, ∀ v ∈ photoUrls remote.article,
    bundledAddress u = bundledAddress v ↔ Address.fileName u = Address.fileName v
  identifying : (∀ u ∈ bundled.bundles, ∀ v ∈ bundled.bundles,
      bundledAddress u = bundledAddress v → u = v) ↔
    (bundled.bundles.map Address.fileName).Nodup

/-- Addresses with file names are bundled under one name just if their file names are the same. -/
theorem bundledAddress_eq_iff {u v : Text} (hu : (Address.fileName u).isOk = true)
    (hv : (Address.fileName v).isOk = true) :
    bundledAddress u = bundledAddress v ↔ Address.fileName u = Address.fileName v := by
  obtain ⟨name, hname⟩ := exists_of_isOk hu
  obtain ⟨name', hname'⟩ := exists_of_isOk hv
  rw [bundledAddress, bundledAddress, hname, hname', Except.ok.injEq]
  exact List.append_right_inj _

theorem ExportResult.IsBundlingOf.namesPicturesOf
    {bundled remote : ExportResult} (h : bundled.IsBundlingOf remote)
    (hrole : isPhoto remote.article = false) :
    bundled.NamesPicturesOf remote := by
  have hrole' : isPhoto bundled.article = false := by
    have hfields := Json.obj.inj h.article
    rw [isPhoto, hfields, Json.get?_mapPhotosIn (by decide) (by decide), ← isPhoto, hrole]
  have hbundles (url : Text) : url ∈ bundled.bundles ↔ url ∈ photoUrls remote.article ∧ url ≠ [] := by
    rw [h.bundles, List.mem_eraseDups, List.mem_filter, Bool.not_eq_true', List.isEmpty_eq_false_iff]
  have hshared : ∀ u ∈ photoUrls remote.article, ∀ v ∈ photoUrls remote.article,
      bundledAddress u = bundledAddress v ↔ Address.fileName u = Address.fileName v :=
    fun u hu v hv => bundledAddress_eq_iff (h.named u hu) (h.named v hv)
  have hnodup : bundled.bundles.Nodup := by
    rw [h.bundles, ← foldl_addBundle_eq_eraseDups]
    exact nodup_foldl_addBundle List.nodup_nil _
  refine ⟨?_, hbundles, hshared, ?_, ?_⟩
  · rw [photoUrls_eq hrole', photoUrls_eq hrole, h.article, Json.photoUrls_mapPhotos]
  · intro hidentifying
    refine List.Nodup.map_on ?_ hnodup
    intro u hu v hv hname
    exact hidentifying u hu v hv
      ((hshared u ((hbundles u).mp hu).1 v ((hbundles v).mp hv).1).mpr hname)
  · intro hnames u hu v hv hsame
    exact List.inj_on_of_nodup_map hnames hu hv
      ((hshared u ((hbundles u).mp hu).1 v ((hbundles v).mp hv).1).mp hsame)

/-- Each photo of an article with bundled pictures refers to its picture by a file name.  Two
pictures share a reference just if they share the file name, so references stand for one
picture each as long as the bundles have different file names. -/
theorem Assembler.assemble_names_pictures
    (settings : Settings) (themes : ThemeStore) (sections : List Key)
    (htheme : (themes.used sections).HasNoTemplates) (root : Node) (info : ArticleInfo)
    (bundled : ExportResult)
    (h : (⟨{ settings with useRemoteImages := false }, themes, Variant.standard, .empty⟩ :
      Assembler).assemble root sections info = .ok bundled) :
    ∃ remote, (⟨{ settings with useRemoteImages := true }, themes, Variant.standard, .empty⟩ :
        Assembler).assemble root sections info = .ok remote ∧
      bundled.NamesPicturesOf remote := by
  obtain ⟨remote, hremote, hbundling⟩ := Setup.exists_linking_of_bundling htheme h
  refine ⟨remote, hremote, hbundling.namesPicturesOf ?_⟩
  obtain ⟨cs, a, -, -, rfl⟩ := Setup.assemble_eq_ok hremote
  rfl

/-- Of three pictures, two share their name, and all three are bundles. -/
theorem Assembler.assemble_names_pictures_of_two_hosts :
    let settings := Settings.default
    let photo (url : Text) : Node := .element "img" [("src", url)] []
    let root : Node := .root [photo "https://a.example.org/x/cat%20a.jpg?v=1",
      photo "https://b.example.org/cat a.jpg/", photo "dog.jpg"]
    ∃ bundled remote,
      (⟨{ settings with useRemoteImages := false }, .initial, Variant.standard, .empty⟩ :
        Assembler).assemble root [] .default = .ok bundled ∧
      (⟨{ settings with useRemoteImages := true }, .initial, Variant.standard, .empty⟩ :
        Assembler).assemble root [] .default = .ok remote ∧
      bundled.NamesPicturesOf remote ∧
      photoUrls bundled.article = ["bundle://cat a.jpg", "bundle://cat a.jpg", "bundle://dog.jpg"] := by
  intro settings photo root
  have hholds : ((⟨{ settings with useRemoteImages := false }, .initial, Variant.standard, .empty⟩ :
      Assembler).assemble root [] .default).toOption.any (fun r =>
        photoUrls r.article ==
          (["bundle://cat a.jpg", "bundle://cat a.jpg", "bundle://dog.jpg"] : List Text)) = true := by
    decide +kernel
  obtain ⟨bundled, hbundled, hurls⟩ := exists_of_holds hholds
  obtain ⟨remote, hremote, hnames⟩ :=
    assemble_names_pictures settings .initial [] (ThemeStore.hasNoTemplates_initial []) root .default
      bundled hbundled
  exact ⟨bundled, remote, hbundled, hremote, hnames, beq_iff_eq.mp hurls⟩

/-- Two pictures of one file name from two hosts are bundled, and both photos show one name. -/
theorem Assembler.assemble_of_two_photos_under_one_name :
    let url : Text := "https://a.example.org/x/photo.jpg"
    let other : Text := "https://b.example.org/y/photo.jpg"
    let photo (url : Text) : Node := .element "img" [("src", url)] []
    ∃ bundled, (⟨{ Settings.default with useRemoteImages := false }, .initial, Variant.standard,
        .empty⟩ : Assembler).assemble (.root [photo url, photo other]) [] .default = .ok bundled ∧
      url ≠ other ∧ url ∈ bundled.bundles ∧ other ∈ bundled.bundles ∧
      bundledAddress url = bundledAddress other ∧
      photoUrls bundled.article = [bundledAddress url, bundledAddress other] := by
  intro url other photo
  have hholds : ((⟨{ Settings.default with useRemoteImages := false }, .initial, Variant.standard,
      .empty⟩ : Assembler).assemble (.root [photo url, photo other]) [] .default).toOption.any
        (fun r => r.bundles == [url, other] &&
          photoUrls r.article == [bundledAddress url, bundledAddress other]) = true := by
    decide +kernel
  obtain ⟨bundled, hbundled, hboth⟩ := exists_of_holds hholds
  obtain ⟨hbundles, hurls⟩ := (Bool.and_eq_true _ _).mp hboth
  rw [beq_iff_eq] at hbundles hurls
  refine ⟨bundled, hbundled, by decide, ?_, ?_, by decide +kernel, hurls⟩
  · rw [hbundles]
    exact .head _
  · rw [hbundles]
    exact .tail _ (.head _)

end ArticleExport
