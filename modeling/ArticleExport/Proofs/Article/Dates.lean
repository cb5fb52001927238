import ArticleExport.Proofs.Article.Assembly
import ArticleExport.Proofs.Json.RoundTrip
import ArticleExport.Proofs.Push.Preparation
import ArticleExport.Proofs.Sync.Fingerprint

/-!
# Dates and the order of sections

Two versions of a content item may differ in their dates and in the order of their
sections.  The articles then differ in the metadata only, and there in fields that a
fingerprint does not see; what is published along with them does not differ at all,
since the links of the sections are put in order.
-/

namespace ArticleExport

/-- A version of a content item that differs in its dates and the order of its
sections at most. -/
structure Content.SameButDates (c d : Content) : Prop where
  id : d.id = c.id
  title : d.title = c.title
  html : d.html = c.html
  sections : d.sections.Perm c.sections
  terms : d.terms = c.terms
  notes : d.notes = c.notes
  custom : d.custom = c.custom
  language : d.language = c.language

/-! ## Values of a host that are JSON -/

namespace HostValue

theorem toEntries_append (s t : List (Key × HostValue)) :
    toEntries (s ++ t) = (toEntries s).bind fun a => (toEntries t).bind fun b => .ok (a ++ b) := by
  induction s with
  | nil =>
      rw [List.nil_append, toEntries]
      cases toEntries t <;> rfl
  | cons e s ih =>
      obtain ⟨k, v⟩ := e
      rw [List.cons_append, toEntries, toEntries, ih]
      cases writtenName k with
      | error f => rfl
      | ok name =>
          cases v.toJson with
          | error f => rfl
          | ok a =>
              cases toEntries s with
              | error f => rfl
              | ok b => cases toEntries t <;> rfl

theorem ofEntries_append (s t : List (Text × Json)) :
    ofEntries (s ++ t) = ofEntries s ++ ofEntries t := by
  induction s with
  | nil => rfl
  | cons e s ih => rw [List.cons_append, ofEntries, ofEntries, ih, List.cons_append]

theorem keys_of_toEntries_ofEntries
    {s t : List (Text × Json)} (h : toEntries (ofEntries s) = .ok t) :
    Table.keys t = Table.keys s := by
  induction s generalizing t with
  | nil => cases h; rfl
  | cons e s ih =>
      rw [ofEntries, toEntries_text_cons] at h
      obtain ⟨v, -, hrest⟩ := exceptBind_eq_ok h
      obtain ⟨vs, hvs, ht⟩ := exceptBind_eq_ok hrest
      cases ht
      have hkeys := ih hvs
      rw [Table.keys] at hkeys ⊢
      rw [List.map_cons, hkeys]
      rfl

theorem toItems_ofItems {items : List Json} (h : ∀ v ∈ items, (ofJson v).toJson = .ok v) :
    toItems (ofItems items) = .ok items := by
  induction items with
  | nil => rfl
  | cons v vs ih =>
      obtain ⟨hv, hvs⟩ := List.forall_mem_cons.mp h
      rw [ofItems, toItems, hv, ih hvs]
      rfl

theorem toEntries_ofEntries {entries : List (Text × Json)}
    (h : ∀ e ∈ entries, (ofJson e.2).toJson = .ok e.2) :
    toEntries (ofEntries entries) = .ok entries := by
  induction entries with
  | nil => rfl
  | cons e es ih =>
      obtain ⟨he, hes⟩ := List.forall_mem_cons.mp h
      rw [ofEntries, toEntries_text_cons, he, ih hes]
      rfl

/-- A portable value is the JSON form of itself. -/
theorem toJson_ofJson {v : Json} (h : v.IsPortable) : (ofJson v).toJson = .ok v := by
  induction h with
  | null => rfl
  | bool b => rfl
  | @int n hn =>
      rw [ofJson, toJson, writtenWhole, if_pos hn]
      rfl
  | str _ => rfl
  | arr _ ih =>
      rw [ofJson, toJson, toItems_ofItems ih]
      rfl
  | obj hdistinct _ _ ih =>
      rw [ofJson, toJson, toEntries_ofEntries ih]
      exact congrArg (fun s => Except.ok (Json.obj s)) (Table.ofEntries_of_distinct hdistinct)

end HostValue

/-! ## Metadata -/

namespace ArticleInfo

theorem keys_dateEntry (name : Text) (date : Option Moment) :
    (Table.keys (dateEntry name date)).Sublist [name] := by
  cases date with
  | none => exact List.nil_sublist _
  | some m => exact .refl _

theorem distinct_metadata (info : ArticleInfo) : Table.Distinct info.metadata := by
  have hnames : (Table.keys info.metadata).Sublist
      ([Text.ofString "dateCreated"] ++ [Text.ofString "dateModified"] ++
        [Text.ofString "datePublished"] ++ Table.keys generator) := by
    rw [metadata, Table.keys, List.map_append, List.map_append, List.map_append]
    exact (((keys_dateEntry _ _).append (keys_dateEntry _ _)).append (keys_dateEntry _ _)).append
      (.refl _)
  exact hnames.nodup (by decide)

theorem mem_dateEntry {name : Text} {date : Option Moment} {e : Text × Json}
    (h : e ∈ dateEntry name date) : e.1 = name ∧ ∃ m : Moment, e.2 = .str m.text := by
  cases date with
  | none => cases h
  | some m =>
      obtain rfl := List.mem_singleton.mp h
      exact ⟨rfl, m, rfl⟩

/-- The metadata of an article can be written, whatever its dates are. -/
theorem isScalar_metadata (info : ArticleInfo) : (Json.obj info.metadata).IsScalar := by
  have hdate : ∀ (name : String) (date : Option Moment), ∀ e ∈ dateEntry name date,
      e.1.IsScalar ∧ e.2.IsScalar := by
    intro name date e he
    obtain ⟨hname, m, hm⟩ := mem_dateEntry he
    rw [hname, hm]
    exact ⟨Text.isScalar_ofString name, .str m.isScalar_text⟩
  have hgenerator : ∀ e ∈ generator, e.1.IsScalar ∧ e.2.IsScalar := by
    simp [generator, Json.isScalar_str, Text.isScalar_ofString, generatorName,
      generatorIdentifier, generatorVersion]
  rw [Json.isScalar_obj, metadata]
  simp only [List.forall_mem_append]
  exact ⟨⟨⟨hdate _ _, hdate _ _⟩, hdate _ _⟩, hgenerator⟩

/-- The metadata of an article are portable, whatever its dates are. -/
theorem isPortable_metadata (info : ArticleInfo) : (Json.obj info.metadata).IsPortable := by
  have hdate : ∀ (name : Text) (date : Option Moment), ∀ e ∈ dateEntry name date,
      e.2.IsPortable := by
    intro name date e he
    obtain ⟨-, m, hm⟩ := mem_dateEntry he
    rw [hm]
    exact .str m.isScalar_text
  have hgenerator : ∀ e ∈ generator, e.2.IsPortable := by
    intro e he
    simp only [generator, List.mem_cons, List.not_mem_nil, or_false] at he
    rcases he with rfl | rfl | rfl
    all_goals exact .str (Text.isScalar_ofString _)
  have hnames := Json.isScalar_obj.mp info.isScalar_metadata
  refine .obj info.distinct_metadata (fun e he => (hnames e he).1) ?_
  rw [metadata]
  simp only [List.forall_mem_append]
  exact ⟨⟨⟨hdate _ _, hdate _ _⟩, hdate _ _⟩, hgenerator⟩

/-- Of the metadata of an article nothing lasts but what is the same for all articles. -/
theorem stableMetadata_metadata (info : ArticleInfo) :
    stableMetadata info.metadata = stableMetadata generator := by
  have hdate : ∀ (name : Text) (date : Option Moment), name ∈ volatileFields →
      stableMetadata (dateEntry name date) = [] := by
    intro name date hname
    refine List.filter_eq_nil_iff.mpr ?_
    intro e he
    obtain ⟨rfl, -⟩ := mem_dateEntry he
    simp [hname]
  rw [metadata, stableMetadata, List.filter_append, List.filter_append, List.filter_append]
  change stableMetadata _ ++ stableMetadata _ ++ stableMetadata _ ++ _ = _
  rw [hdate _ _ (by decide), hdate _ _ (by decide), hdate _ _ (by decide)]
  rfl

end ArticleInfo

/-! ## Documents that end with metadata -/

/-- A document with metadata as its last entry. -/
structure Dated (rest metadata document : Table Json) : Prop where
  eq : document = rest ++ [(metadataKey, .obj metadata)]
  isNew : metadataKey ∉ Table.keys rest

namespace Dated

variable {rest metadata metadata' document document' : Table Json}

theorem ne_nil (h : Dated rest metadata document) : document ≠ [] := by
  rw [h.eq]
  exact List.append_ne_nil_of_right_ne_nil _ (List.cons_ne_nil _ _)

theorem normalizeDocument_eq (h : Dated rest metadata document) :
    normalizeDocument document = rest ++ [(metadataKey, .obj (stableMetadata metadata))] := by
  have hget : Table.get? metadataKey document = some (.obj metadata) := by
    rw [h.eq, Table.get?_append_of_not_mem h.isNew, Table.get?_cons, if_pos rfl]
  rw [normalizeDocument, hget]
  dsimp only
  rw [h.eq, Table.set_append_of_not_mem h.isNew, Table.set, if_pos rfl]

/-- Metadata of which the same lasts give a document the same fingerprint. -/
theorem fingerprint_eq
    (h : Dated rest metadata document) (h' : Dated rest metadata' document')
    (hstable : stableMetadata metadata' = stableMetadata metadata) (m : Table Json)
    (b : List Text) :
    fingerprint (.obj document') m b = fingerprint (.obj document) m b := by
  have hvalue : fingerprintValue document' m b = fingerprintValue document m b := by
    rw [fingerprintValue, fingerprintValue, h.normalizeDocument_eq, h'.normalizeDocument_eq,
      hstable]
  obtain ⟨e, es, rfl⟩ := List.exists_cons_of_ne_nil h.ne_nil
  obtain ⟨e', es', rfl⟩ := List.exists_cons_of_ne_nil h'.ne_nil
  rw [fingerprint, fingerprint, fingerprintText, fingerprintText, hvalue]

/-- Metadata that can be written keep a document one that can be written. -/
theorem isScalar
    (h : Dated rest metadata document) (h' : Dated rest metadata' document')
    (hmetadata : (Json.obj metadata').IsScalar) (hdocument : (Json.obj document).IsScalar) :
    (Json.obj document').IsScalar := by
  rw [Json.isScalar_obj, h.eq, List.forall_mem_append] at hdocument
  rw [Json.isScalar_obj, h'.eq, List.forall_mem_append]
  refine ⟨hdocument.1, ?_⟩
  intro e he
  obtain rfl := List.mem_singleton.mp he
  exact ⟨Text.isScalar_ofString "metadata", hmetadata⟩

theorem toEntries_eq
    (h : Dated rest metadata document) (hmetadata : (Json.obj metadata).IsPortable) :
    HostValue.toEntries (HostValue.ofEntries document) =
      (HostValue.toEntries (HostValue.ofEntries rest)).bind fun entries =>
        .ok (entries ++ [(metadataKey, .obj metadata)]) := by
  have hlast : HostValue.toEntries (HostValue.ofEntries [(metadataKey, .obj metadata)]) =
      .ok [(metadataKey, .obj metadata)] :=
    HostValue.toEntries_ofEntries (List.forall_mem_singleton.mpr (HostValue.toJson_ofJson hmetadata))
  rw [h.eq, HostValue.ofEntries_append, HostValue.toEntries_append, hlast]
  rfl

/-- The entries in front of the metadata are all that can keep a document from being valid. -/
theorem validateDocument_eq
    (h : Dated rest metadata document) (hmetadata : (Json.obj metadata).IsPortable)
    {entries : Table Json}
    (hentries : HostValue.toEntries (HostValue.ofEntries rest) = .ok entries) :
    validateDocument (.ofJson (.obj document)) =
      .ok (Table.ofEntries entries ++ [(metadataKey, .obj metadata)]) := by
  have hnew : metadataKey ∉ Table.keys entries := by
    rw [HostValue.keys_of_toEntries_ofEntries hentries]
    exact h.isNew
  have hjson : (HostValue.ofJson (.obj document)).toJson =
      .ok (.obj (Table.ofEntries entries ++ [(metadataKey, .obj metadata)])) := by
    rw [HostValue.ofJson, HostValue.toJson, h.toEntries_eq hmetadata, hentries,
      ← Table.ofEntries_concat_of_not_mem hnew]
    rfl
  rw [validateDocument, hjson]
  cases Table.ofEntries entries <;> rfl

/-- A document stays valid with other metadata. -/
theorem validate
    {article article' : Table Json} (h : Dated rest metadata article)
    (h' : Dated rest metadata' article') (hmetadata : (Json.obj metadata).IsPortable)
    (hmetadata' : (Json.obj metadata').IsPortable)
    (hdocument : validateDocument (.ofJson (.obj article)) = .ok document) :
    ∃ entries document', Dated entries metadata document ∧
      Dated entries metadata' document' ∧
      validateDocument (.ofJson (.obj article')) = .ok document' := by
  cases hentries : HostValue.toEntries (HostValue.ofEntries rest) with
  | error f =>
      rw [validateDocument, HostValue.ofJson, HostValue.toJson, h.toEntries_eq hmetadata,
        hentries] at hdocument
      cases hdocument
  | ok entries =>
      have hnew : metadataKey ∉ Table.keys (Table.ofEntries entries) := by
        intro hmem
        have hkeys := HostValue.keys_of_toEntries_ofEntries hentries
        exact h.isNew (hkeys ▸ Table.mem_keys_of_mem_keys_ofEntries hmem)
      rw [h.validateDocument_eq hmetadata hentries] at hdocument
      obtain rfl := Except.ok.inj hdocument
      exact ⟨_, _, ⟨rfl, hnew⟩, ⟨rfl, hnew⟩, h'.validateDocument_eq hmetadata' hentries⟩

end Dated

/-! ## What is sent for a version of an item -/

theorem Setup.assemble_dated
    {s : Setup} {root : Node} {info info' : ArticleInfo}
    (hidentifier : info'.identifier = info.identifier) (htitle : info'.title = info.title)
    (hlanguage : info'.language = info.language) {r : ExportResult}
    (h : s.assemble root info = .ok r) :
    ∃ rest article', Dated rest info.metadata r.article ∧ Dated rest info'.metadata article' ∧
      s.assemble root info' = .ok { r with article := article' } := by
  obtain ⟨cs, a, hcs, ha, rfl⟩ := assemble_eq_ok h
  let l := (s.components root).ledger
  have hkeys : Table.keys (s.article info l a.components a.layouts).dropLast =
      ["version", "identifier", "title", "language", "layout", "components",
        "componentTextStyles", "componentLayouts", "componentStyles"] := rfl
  have hnew : metadataKey ∉ Table.keys (s.article info l a.components a.layouts).dropLast := by
    rw [hkeys]
    decide
  refine ⟨_, s.article info' l a.components a.layouts, ⟨rfl, hnew⟩, ⟨?_, hnew⟩, ?_⟩
  · rw [article, hidentifier, htitle, hlanguage]
    rfl
  · change (s.components root).result.bind _ = _
    rw [hcs]
    change ((resolveAnchors s.theme cs l.layouts).mapError Failure.fault).bind _ = _
    rw [ha]
    rfl

namespace Content.SameButDates

variable {c d : Content}

theorem label (h : c.SameButDates d) : d.label = c.label := by
  rw [Content.label, h.id]
  rfl

theorem assembled
    (h : c.SameButDates d) {a : Assembler}
    (htheme : a.themes.used d.sections = a.themes.used c.sections) {r : ExportResult}
    (hr : a.export c = .ok r) :
    ∃ rest article', Dated rest c.info.metadata r.article ∧
      Dated rest d.info.metadata article' ∧ a.export d = .ok { r with article := article' } := by
  obtain ⟨root, hroot, hassembled⟩ := exceptBind_eq_ok hr
  have hidentifier : d.info.identifier = c.info.identifier := congrArg Json.str h.label
  obtain ⟨rest, article', hdated, hdated', hagain⟩ :=
    Setup.assemble_dated hidentifier h.title h.language hassembled
  refine ⟨rest, article', hdated, hdated', ?_⟩
  have hsetup : a.setup d.sections = a.setup c.sections := by
    rw [Assembler.setup, htheme]
    rfl
  rw [Assembler.export, h.html, hroot]
  change (a.setup d.sections).assemble root d.info = _
  rw [hsetup]
  exact hagain

theorem sectionLinks_eq (h : c.SameButDates d) (settings : Settings) :
    sectionLinks settings d.sections = sectionLinks settings c.sections := by
  have hempty : d.sections.isEmpty = c.sections.isEmpty := h.sections.isEmpty_eq
  have hlinks := Text.sorted_eq_of_perm (h.sections.map settings.sectionUrl)
  rw [sectionLinks, sectionLinks, hempty, hlinks]

theorem publishMetadata_eq
    (h : c.SameButDates d) (settings : Settings) (filter : Option MetadataFilter) :
    publishMetadata settings filter d = publishMetadata settings filter c := by
  rw [publishMetadata, publishMetadata, h.custom, h.sectionLinks_eq, h.notes, h.id]

theorem hasSkipTerm_eq (h : c.SameButDates d) (settings : Settings) :
    PushSetup.hasSkipTerm settings d = PushSetup.hasSkipTerm settings c := by
  rw [PushSetup.hasSkipTerm, PushSetup.hasSkipTerm, h.terms]

end Content.SameButDates

namespace PushSetup

variable {σ : Type} {p : PushSetup σ} {settings : Settings} {c d : Content}

/-- Whether an item is skipped depends on neither its dates nor the order of its sections. -/
theorem verdict_of_sameButDates (h : c.SameButDates d) :
    p.verdict settings d = p.verdict settings c := by
  have hhost : p.hostVerdict d = p.hostVerdict c := by
    rw [hostVerdict, hostVerdict, h.id]
  rw [verdict, verdict, hhost, h.hasSkipTerm_eq, h.label]

/-- A version of an item has a document with the same entries in front of the metadata; the bundles
are the same, and so is what the user is told. -/
theorem document_of_sameButDates
    (h : c.SameButDates d) (htheme : p.themes.used d.sections = p.themes.used c.sections)
    {document : Table Json} {result : ExportResult} {messages : List Text}
    (hdocument : p.document settings c = .ok (document, result, messages)) :
    ∃ entries document' result', Dated entries c.info.metadata document ∧
      Dated entries d.info.metadata document' ∧ result'.bundles = result.bundles ∧
      p.document settings d = .ok (document', result', messages) := by
  obtain ⟨r, hr, hrest⟩ := exceptBind_eq_ok hdocument
  obtain ⟨told, htold, hrest⟩ := exceptBind_eq_ok hrest
  obtain ⟨valid, hvalid, hdone⟩ := exceptBind_eq_ok hrest
  obtain ⟨rfl, rfl, rfl⟩ : valid = document ∧ r = result ∧ told = messages := by
    simpa using Except.ok.inj hdone
  obtain ⟨rest, article', hdated, hdated', hexport⟩ := h.assembled htheme hr
  have hvalidated : validateDocument (.ofJson (.obj r.article)) = .ok valid :=
    exceptMapError_eq_ok hvalid
  obtain ⟨entries, document', hdocument, hdocument', hvalid'⟩ :=
    hdated.validate hdated' c.info.isPortable_metadata d.info.isPortable_metadata hvalidated
  refine ⟨entries, document', { r with article := article' }, hdocument, hdocument', rfl, ?_⟩
  rw [PushSetup.document]
  change ((p.assembler settings).export d).bind _ = _
  rw [hexport]
  change (alerts settings (r.issues.map ComponentIssue.component)).bind _ = _
  rw [htold]
  change ((validateDocument (.ofJson (.obj article'))).mapError Failure.error).bind _ = _
  rw [hvalid']
  rfl

theorem shipment_of_sameButDates
    (h : c.SameButDates d) {document document' : Table Json} {bundles : List Text}
    {s : Shipment} (hs : p.shipment settings c document bundles = .ok s) :
    p.shipment settings d document' bundles = .ok { s with document := document' } := by
  obtain ⟨cleaned, hcleaned, hrest⟩ := exceptBind_eq_ok hs
  obtain ⟨metadata, hmetadata, hdone⟩ := exceptBind_eq_ok hrest
  cases hdone
  rw [PushSetup.shipment]
  change (cleanBundles bundles).bind _ = _
  rw [hcleaned]
  change (publishMetadata settings p.filter d).bind _ = _
  rw [h.publishMetadata_eq, hmetadata]
  rfl

end PushSetup

end ArticleExport
