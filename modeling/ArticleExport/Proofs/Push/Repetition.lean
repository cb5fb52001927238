import ArticleExport.Proofs.Article.Dates
import ArticleExport.Proofs.Push.Markers
import ArticleExport.Proofs.Push.Soundness
import ArticleExport.Proofs.State.Marking

/-!
# Pushing unchanged content again

A push that has created or updated an article has stored the fingerprint of what was
accepted.  When the same content is pushed once more, perhaps with other dates and
with its sections in another order, the fresh fingerprint is the stored one.  So the
second push is skipped: it makes no call, and it leaves the publish state as it has
found it.

Everything on which the second push could end in another way was tried by the first
one: the account, the veto, the workspace, the document, the metadata.
-/

namespace ArticleExport

open StateStore

variable {σ : Type}

namespace PushSetup

/-- What the change to the metadata fails with depends on nothing but what it is
given: the metadata and the identifier of the item. -/
def HasPureFilter (p : PushSetup σ) : Prop :=
  ∀ (settings : Settings) (c d : Content), d.id = c.id →
    publishMetadata settings none d = publishMetadata settings none c →
      p.failures.filter d = p.failures.filter c

theorem HasPureFilter.filterFailure?_eq
    {p : PushSetup σ} (hp : p.HasPureFilter) {c d : Content} (h : c.SameButDates d) :
    p.filterFailure? d = p.filterFailure? c := by
  rw [filterFailure?, filterFailure?, hp .default c d h.id (h.publishMetadata_eq _ none)]

/-! ## What it takes to prepare a push -/

section Preparing

variable {p : PushSetup σ} {room : Text} {c : Content} {w : World σ}

theorem write_eq_ok_iff (space : Workspace) (v : Json) :
    (space.write v).2 = .ok ⟨⟩ ↔
      space.isPresent = true ∧ v.IsScalar := by
  rw [Workspace.write, ← Json.isScalar_print_iff Json.isScalar_indented]
  cases space.isPresent with
  | false => simp
  | true =>
      by_cases hscalar : (Json.print .indented v).IsScalar
      · simp [hscalar]
      · simp [hscalar]

/-- A document is written where the workspace is there and the document has a byte form. -/
theorem writeDocument_eq_ok_iff {document : Table Json} :
    (writeDocument room document w).1 = .ok ⟨⟩ ↔
      ∃ space, Table.get? room w.temporary = some space ∧ space.isPresent = true ∧
        (Json.obj document).IsScalar := by
  rw [writeDocument, Run.bind_of_ok (Run.get_apply w)]
  cases hroom : Table.get? room w.temporary with
  | none =>
      constructor
      · intro h
        cases h
      · rintro ⟨space, hspace, -⟩
        cases hspace
  | some space =>
      dsimp only
      rw [Run.bind_of_ok (Run.set_apply _ w), Run.ofFault_apply]
      have hwrite := write_eq_ok_iff space (.obj document)
      constructor
      · intro h
        refine ⟨space, rfl, hwrite.mp ?_⟩
        cases hresult : (space.write (.obj document)).2 with
        | error f => rw [hresult] at h; cases h
        | ok u => rfl
      · rintro ⟨_, ⟨⟩, hspace⟩
        rw [hwrite.mpr hspace]
        rfl

/-- What is prepared is a document that can be written, with what is sent along with it, for an
item at which nothing of the host fails. -/
structure Preparable (p : PushSetup σ) (w : World σ) (c : Content) (document : Table Json)
    (result : ExportResult) (prepared : Prepared) : Prop where
  exported : p.document w.settings c = .ok (document, result, prepared.messages)
  written : (Json.obj document).IsScalar
  shipped : p.shipment w.settings c document result.bundles = .ok prepared.shipment
  filtered : p.filterFailure? c = none
  reached : w.state.nameFault? [c.label] = none
  checked : SyncCheck.ofExport c.label (w.state.checksum c.label).text?
    (.obj prepared.shipment.document) prepared.shipment.metadata prepared.shipment.bundles =
      .ok prepared.check

theorem preparable_of_prepare
    {v : World σ} {prepared : Prepared} (h : p.prepare room c w = (.ok prepared, v)) :
    ∃ document result, p.Preparable w c document result prepared := by
  rw [prepare, Run.bind_of_ok (Run.get_apply w)] at h
  obtain ⟨⟨document, result, messages⟩, w₁, hexported, hwrite⟩ := Run.bind_eq_ok h
  obtain ⟨hdocument, rfl⟩ := Run.ofExcept_eq_ok hexported
  obtain ⟨_, w₂, hwritten, hship⟩ := Run.bind_eq_ok hwrite
  obtain ⟨shipment, w₃, hshipped, hfilter⟩ := Run.bind_eq_ok hship
  obtain ⟨hshipment, rfl⟩ := Run.ofFault_eq_ok hshipped
  obtain ⟨_, w₄, hfiltered, hreach⟩ := Run.bind_eq_ok hfilter
  obtain ⟨_, w₅, hreached, hread⟩ := Run.bind_eq_ok hreach
  rw [Run.bind_of_ok (Run.get_apply w₅)] at hread
  obtain ⟨check, w₆, hchecked, hdone⟩ := Run.bind_eq_ok hread
  obtain ⟨hcheck, rfl⟩ := Run.ofFault_eq_ok hchecked
  cases hdone
  have hquiet := (quiet_writeDocument room document).of_eq hwritten
  rw [Run.failing_apply] at hfiltered
  cases hfailure : p.filterFailure? c with
  | some f => rw [hfailure] at hfiltered; cases hfiltered
  | none =>
      rw [hfailure] at hfiltered
      cases hfiltered
      rw [Run.reach_apply] at hreached
      cases hname : w₃.state.nameFault? [c.label] with
      | some f => rw [hname] at hreached; cases hreached
      | none =>
          rw [hname] at hreached
          cases hreached
          rw [hquiet.state] at hname hcheck
          obtain ⟨_, -, -, hscalar⟩ := writeDocument_eq_ok_iff.mp (congrArg Prod.fst hwritten)
          exact ⟨document, result, hdocument, hscalar, hshipment, hfailure, hname, hcheck⟩

theorem Preparable.prepare
    {document : Table Json} {result : ExportResult} {prepared : Prepared}
    (h : p.Preparable w c document result prepared) {space : Workspace}
    (hroom : Table.get? room w.temporary = some space) (hspace : space.isPresent = true) :
    (p.prepare room c w).1 = .ok prepared := by
  obtain ⟨shipment, messages, check⟩ := prepared
  have hexported : (Run.ofExcept (p.document w.settings c) : Run σ _) w =
      (.ok (document, result, messages), w) := by
    rw [Run.ofExcept_apply, h.exported]
  have hwritten : writeDocument room document w = (.ok ⟨⟩, (writeDocument room document w).2) :=
    Prod.ext (writeDocument_eq_ok_iff.mpr ⟨space, hroom, hspace, h.written⟩) rfl
  generalize (writeDocument room document w).2 = v at hwritten
  have hquiet := (quiet_writeDocument room document).of_eq hwritten
  have hshipped : (Run.ofFault (p.shipment w.settings c document result.bundles) : Run σ _) v =
      (.ok shipment, v) := by
    rw [Run.ofFault_apply, h.shipped]
    rfl
  have hfiltered : (Run.failing (p.filterFailure? c) : Run σ Unit) v = (.ok ⟨⟩, v) := by
    rw [h.filtered]
    rfl
  have hreached : (Run.reach c.label : Run σ Unit) v = (.ok ⟨⟩, v) := by
    rw [Run.reach_apply, hquiet.state, h.reached]
  have hcheck := h.checked
  rw [← hquiet.state] at hcheck
  rw [PushSetup.prepare, Run.bind_of_ok (Run.get_apply w), Run.bind_of_ok hexported]
  dsimp only
  rw [Run.bind_of_ok hwritten, Run.bind_of_ok hshipped, Run.bind_of_ok hfiltered,
    Run.bind_of_ok hreached, Run.bind_of_ok (Run.get_apply v), Run.bind_apply, Run.ofFault_apply,
    hcheck]
  rfl

end Preparing

/-- What was prepared for an item can be prepared again for a version of it, in any world with the
same settings that can be used for the item; where the fingerprint is stored, the version is in
sync. -/
theorem Preparable.again
    {p : PushSetup σ} (hp : p.HasPureFilter) {w w' : World σ} {c d : Content}
    (hsame : c.SameButDates d) (htheme : p.themes.used d.sections = p.themes.used c.sections)
    (hsettings : w'.settings = w.settings) (hreach : w'.state.nameFault? [c.label] = none)
    {document : Table Json} {result : ExportResult} {prepared : Prepared}
    (h : p.Preparable w c document result prepared)
    (hstored : w'.state.checksum c.label = .str prepared.check.fingerprint) :
    ∃ document' result' prepared', p.Preparable w' d document' result' prepared' ∧
      prepared'.check.fingerprint = prepared.check.fingerprint ∧
      prepared'.check.defaultDecision = true := by
  obtain ⟨entries, document', result', hdated, hdated', hbundles, hdocument⟩ :=
    document_of_sameButDates hsame htheme h.exported
  have hwritten := hdated.isScalar hdated' d.info.isScalar_metadata h.written
  let shipment' : Shipment := { prepared.shipment with document := document' }
  have hshipment : p.shipment w.settings d document' result.bundles = .ok shipment' :=
    shipment_of_sameButDates hsame h.shipped
  obtain ⟨-, hfingerprint⟩ := SyncCheck.ofExport_eq_ok h.checked
  have hsent : prepared.shipment.document = document := by
    obtain ⟨_, -, hrest⟩ := exceptBind_eq_ok h.shipped
    obtain ⟨_, -, hdone⟩ := exceptBind_eq_ok hrest
    exact (congrArg Shipment.document (Except.ok.inj hdone)).symm
  have hstable := d.info.stableMetadata_metadata.trans c.info.stableMetadata_metadata.symm
  have hagain : ArticleExport.fingerprint (.obj document') prepared.shipment.metadata
      prepared.shipment.bundles = .ok prepared.check.fingerprint := by
    rw [hdated.fingerprint_eq hdated' hstable, ← hsent, hfingerprint]
  let check' : SyncCheck :=
    ⟨d.label, (w'.state.checksum d.label).text?, prepared.check.fingerprint, .obj document',
      prepared.shipment.metadata, prepared.shipment.bundles⟩
  refine ⟨document', result', ⟨shipment', prepared.messages, check'⟩, ?_, rfl, ?_⟩
  · constructor
    · rw [hsettings]
      exact hdocument
    · exact hwritten
    · rw [hsettings, hbundles]
      exact hshipment
    · rw [hp.filterFailure?_eq hsame]
      exact h.filtered
    · rw [hsame.label]
      exact hreach
    · change SyncCheck.ofExport d.label _ (.obj document') _ _ = _
      rw [SyncCheck.ofExport]
      change (ArticleExport.fingerprint (.obj document') prepared.shipment.metadata
        prepared.shipment.bundles).bind _ = _
      rw [hagain]
      rfl
  · have hne : prepared.check.fingerprint ≠ [] := by
      intro hempty
      rw [hempty, fingerprint_eq_empty_iff] at hagain
      exact hagain ⟨document', rfl, hdated'.ne_nil⟩
    change isInSync (w'.state.checksum d.label).text? prepared.check.fingerprint = true
    rw [hsame.label, hstored, Json.text?, isInSync]
    simpa using hne

theorem Preparable.prepares
    {p : PushSetup σ} {w : World σ} {c : Content} {document : Table Json}
    {result : ExportResult} {prepared : Prepared}
    (h : p.Preparable w c document result prepared) : p.Prepares w c prepared := by
  obtain ⟨hstored, hfingerprint⟩ := SyncCheck.ofExport_eq_ok h.checked
  refine ⟨?_, hstored, hfingerprint⟩
  rw [shipmentOf, h.exported]
  change (p.shipment w.settings c document result.bundles).mapError Failure.fault = _
  rw [h.shipped]
  rfl

/-- What is prepared under the same settings has the same fingerprint. -/
theorem Prepares.fingerprint_eq
    {p : PushSetup σ} {v w : World σ} {c : Content} {prepared prepared' : Prepared}
    (h : p.Prepares v c prepared) (h' : p.Prepares w c prepared')
    (hsettings : v.settings = w.settings) :
    prepared.check.fingerprint = prepared'.check.fingerprint := by
  have hshipment := h.shipment
  rw [hsettings, h'.shipment] at hshipment
  have hfingerprint := h.fingerprint
  rw [← Except.ok.inj hshipment, h'.fingerprint] at hfingerprint
  exact (Except.ok.inj hfingerprint).symm

/-! ## What a delivery leaves of the store -/

theorem keepsItems_of_updating
    {id remoteId : Text} {s : Shipment} {calls : List ServiceCall}
    {change : StateStore → StateStore} {o : Except Failure ArticleRecord}
    (h : Updating id remoteId s calls change o) (t : StateStore) : t.KeepsItems (change t) := by
  cases h with
  | unanswered => exact .refl t
  | withoutRevision => exact .refl t
  | sent => exact .set t _ _ _

theorem keepsItems_of_delivery
    {id channel : Text} {remote : RemoteState} {s : Shipment} {calls : List ServiceCall}
    {change : StateStore → StateStore}
    {o : Except Failure (ArticleRecord × PushStatus × Bool)}
    (h : Delivery id remote channel s calls change o) (t : StateStore) :
    t.KeepsItems (change t) := by
  cases h with
  | created => exact .refl t
  | updated _ hu => exact keepsItems_of_updating hu t
  | recreated _ hu => exact (keepsItems_of_updating hu t).trans (.clearRemoteState _ _)

/-! ## The first push -/

theorem eq_ok_of_report
    {id : Text} {o : Except Failure PushResult} {r : PushResult} (h : report id o = .ok r)
    (hr : r.status ≠ .failed) : o = .ok r := by
  rcases o with (e | f) | r'
  · cases h
    exact absurd rfl hr
  · cases h
  · exact h

theorem accept_of_accepts
    {p : PushSetup σ} {id : Text} {w : World σ} {c : Content} (haccepts : p.Accepts id w)
    (hc : w.content? id = some c) :
    ∃ v, w.SameRecords v ∧
      p.accept id w = (.ok (.ok c), { v with state := v.state.markInProgress id }) := by
  obtain ⟨hreach, hconfigured, c', hc', hverdict⟩ := haccepts
  obtain rfl := Option.some.inj (hc'.symm.trans hc)
  rw [← p.skipReason_verdict c' w] at hverdict
  have hquiet := p.quiet_skipReason c' w
  refine ⟨(p.skipReason c' w).2, hquiet, ?_⟩
  have hfound : KeyTable.get? (.text id) w.contents = some c' := hc'
  have hreached : (Run.reach id : Run σ Unit) (p.skipReason c' w).2 =
      (.ok ⟨⟩, (p.skipReason c' w).2) := by
    rw [Run.reach_apply, hquiet.state, hreach]
  rw [accept, Run.bind_of_ok (Run.get_apply w), if_pos hconfigured, hfound]
  dsimp only
  rw [start, Run.bind_of_ok (Prod.ext hverdict rfl)]
  dsimp only
  rw [Run.bind_of_ok hreached]
  rfl

/-- A push that opens a workspace exports and sends its item there. -/
theorem push_of_accepts
    {p : PushSetup σ} {id : Text} {w : World σ} {c : Content} (haccepts : p.Accepts id w)
    (hc : w.content? id = some c) {space : Workspace}
    (hspace : Workspace.create [] id = .ok space) :
    ∃ room u, u.settings = w.settings ∧ u.state = w.state.markInProgress id ∧
      u.service = w.service ∧ Table.get? room u.temporary = some space ∧
      p.push id w =
        ((p.exportAndSend room c u).1, settled id room (p.exportAndSend room c u).2) := by
  obtain ⟨v, hquiet, haccept⟩ := accept_of_accepts haccepts hc
  let room := Workspace.freshName id (Table.keys v.temporary)
  refine ⟨room, { v with
    state := v.state.markInProgress id, temporary := Table.set room space v.temporary },
    hquiet.settings, congrArg (·.markInProgress id) hquiet.state, hquiet.service, ?_, ?_⟩
  · rw [Table.get?_set, if_pos rfl]
  · rw [push, Run.bind_of_ok haccept]
    dsimp only
    rw [Run.bind_apply, openWorkspace_apply, hspace]
    rfl

theorem isPresent_of_create
    {path id : Text} {space : Workspace} (h : Workspace.create path id = .ok space) :
    space.isPresent = true := by
  rw [Workspace.create] at h
  split at h
  · cases h
  · cases h
    rfl

/-- What a push that has sent its item has found out, and the publish state that it leaves: the
fingerprint is stored, and no marker is set. -/
structure Sends (p : PushSetup σ) (id : Text) (w : World σ) (c : Content) (fresh : Text)
    (t : StateStore) : Prop where
  accepts : p.Accepts id w
  room : ∃ space, Workspace.create [] id = .ok space
  prepared : ∃ v document result prepared, v.settings = w.settings ∧
    p.Preparable v c document result prepared ∧ prepared.check.fingerprint = fresh
  reach : t.nameFault? [c.label] = none
  checksum : t.checksum c.label = .str fresh
  isClear : t.IsClear id
  nameFault : t.nameFault? [id] = w.state.nameFault? [id]

/-- The time makes no difference to what a push has left. -/
theorem Sends.congr
    {p : PushSetup σ} {id : Text} {w : World σ} {c : Content} {fresh : Text} {s t : StateStore}
    (h : p.Sends id w c fresh s) (hkept : t.holdings = s.holdings) :
    p.Sends id w c fresh t := by
  obtain ⟨now, holdings⟩ := t
  subst hkept
  exact ⟨h.accepts, h.room, h.prepared, h.reach, h.checksum, ⟨h.isClear.pending,
    h.isClear.inProgress⟩, h.nameFault⟩

/-- A push that comes to a result of its own in a workspace has prepared its item there. -/
theorem exists_preparable_of_perform
    {p : PushSetup σ} {id : Text} {scheduled : Bool} {w : World σ} {c : Content}
    (hqueueing : w.isQueueing scheduled = false) (haccepts : p.Accepts id w)
    (hc : w.content? id = some c) {space : Workspace} (hspace : Workspace.create [] id = .ok space)
    {r : PushResult} (hr : (p.perform id scheduled w).1 = .ok r) (hstatus : r.status ≠ .failed) :
    ∃ v document result prepared, v.settings = w.settings ∧ v.state = w.state.markInProgress id ∧
      p.Preparable v c document result prepared := by
  obtain ⟨room, u, hsettings, hstate, -, -, hpush⟩ := push_of_accepts haccepts hc hspace
  rw [perform_of_pushing hqueueing, hpush] at hr
  have hexport := eq_ok_of_report hr hstatus
  rw [exportAndSend] at hexport
  rcases hprepare : p.prepare room c u with ⟨f | prepared, v⟩
  · rw [Run.bind_of_error hprepare] at hexport
    cases hexport
  · obtain ⟨document, result, hprepared⟩ := preparable_of_prepare hprepare
    exact ⟨u, document, result, prepared, hsettings, hstate, hprepared⟩

theorem sends_of_perform
    {p : PushSetup σ} {id : Text} {scheduled : Bool} {w : World σ} {c : Content}
    {r : PushResult} (hqueueing : w.isQueueing scheduled = false) (hc : w.content? id = some c)
    (hr : (p.perform id scheduled w).1 = .ok r)
    (hsent : r.status = .created ∨ r.status = .updated) :
    p.Sends id w c r.checksum (p.perform id scheduled w).2.state := by
  have hfailed : r.status ≠ .failed := by rcases hsent with h | h <;> simp [h]
  have hskipped : r.status ≠ .skipped := by rcases hsent with h | h <;> simp [h]
  obtain ⟨change, o, hcourse, hresult, hstate⟩ := perform_course p id hqueueing
  obtain rfl := eq_ok_of_report (hresult.symm.trans hr) hfailed
  rw [hstate]
  generalize p.calls id scheduled w = calls at hcourse
  cases hcourse with
  | dismissed haccept =>
      cases haccept
      exact absurd rfl hskipped
  | @ran _ change' c' space _ _ haccept hroom hsending =>
      have haccepts : p.Accepts id w := haccept.accepts_iff.mpr ⟨_, rfl⟩
      obtain rfl := Option.some.inj (haccept.content_eq.symm.trans hc)
      cases haccept
      cases hsending with
      | inSync => exact absurd rfl hskipped
      | @delivered prepared hprepared _ change record status recreated hdelivery =>
          -- The course says that something was prepared; that it can be prepared again takes
          -- what the preparation has tried on the way.
          obtain ⟨v, document, result, prepared', hsettings, hmarked, hpreparable⟩ :=
            exists_preparable_of_perform hqueueing haccepts hc hroom hr hfailed
          have hfresh := hpreparable.prepares.fingerprint_eq hprepared hsettings
          let s := w.state.markInProgress id
          let t := ((change s).saveRecord c'.label record).setChecksum c'.label
            prepared.check.fingerprint
          have hs : w.state.KeepsItems s := .set w.state id inProgressKey _
          have ht : s.KeepsItems t :=
            ((keepsItems_of_delivery hdelivery s).trans (.saveRecord _ c'.label record)).trans
              (.set _ c'.label StateStore.checksumKey prepared.check.fingerprint)
          have hcleared : s.KeepsItems (t.clearMarkers id) := ht.trans (.clearMarkers t id)
          have hstored : (t.clearMarkers id).checksum c'.label =
              .str prepared.check.fingerprint := by
            have hmarkers := SameButMarkers.of_clearMarkers t id c'.label _
              checksumKey_not_mem_markerKeys
            rw [StateStore.checksum, hmarkers]
            exact get_set_self _ _ _ _
          refine ⟨haccepts, ⟨space, hroom⟩, ?_, ?_, hstored, ?_, ?_⟩
          · exact ⟨v, document, result, prepared', hsettings, hpreparable, hfresh⟩
          · have hreached := hpreparable.reached
            rw [hmarked] at hreached
            rw [← hreached]
            exact hcleared.nameFault _
          · exact isClear_clearMarkers (ht.hasItem id (w.state.holdings.hasItem_set id _ _))
          · exact (hs.trans hcleared).nameFault _

/-! ## The second push -/

/-- A push finds its item in sync: it is skipped without a call, and the publish state is the same
before and after it. -/
structure FindsInSync (p : PushSetup σ) (id : Text) (scheduled : Bool) (w : World σ)
    (fresh : Text) : Prop where
  result : ∃ r, (p.perform id scheduled w).1 = .ok r ∧ r.SaysInSync (w.labelOf id) ∧
    r.checksum = fresh
  calls : p.calls id scheduled w = []
  state : (p.perform id scheduled w).2.state = w.state

/-- A push that says that its item is in sync, and has accepted the item without markers, has made
no calls and left the publish state as it was. -/
theorem findsInSync_of_result
    {p : PushSetup σ} {id : Text} {scheduled : Bool} {w : World σ}
    (hqueueing : w.isQueueing scheduled = false) (haccepts : p.Accepts id w)
    (hclear : w.state.IsClear id)
    {r : PushResult} (hr : (p.perform id scheduled w).1 = .ok r)
    (hanswer : r.SaysInSync (w.labelOf id)) : p.FindsInSync id scheduled w r.checksum := by
  have hfailed : r.status ≠ .failed := by simp [hanswer.1]
  obtain ⟨change, o, hcourse, hresult, hstate⟩ := perform_course p id hqueueing
  obtain rfl := eq_ok_of_report (hresult.symm.trans hr) hfailed
  suffices hquiet : p.calls id scheduled w = [] ∧ change w.state = w.state by
    exact ⟨⟨r, hr, hanswer, rfl⟩, hquiet.1, hstate.trans hquiet.2⟩
  generalize p.calls id scheduled w = calls at hcourse
  cases hcourse with
  | dismissed haccept =>
      obtain ⟨c, hc⟩ := haccept.accepts_iff.mp haccepts
      cases hc
  | ran haccept _ hsending =>
      cases haccept
      cases hsending with
      | inSync => exact ⟨rfl, hclear.clearMarkers_markInProgress⟩
      | delivered _ hdelivery =>
          have hstatus := hanswer.1
          cases hdelivery.sentBy rfl with
          | created => cases hstatus
          | updated => cases hstatus

theorem exportAndSend_of_inSync
    {q : PushSetup σ} (hoverride : q.override = none) {room : Text} {c : Content} {w : World σ}
    {prepared : Prepared} (hprepare : (q.prepare room c w).1 = .ok prepared)
    (hsync : prepared.check.defaultDecision = true) :
    (q.exportAndSend room c w).1 = .ok (skippedInSync c.label prepared) := by
  have hfailure : q.overrideFailure? prepared.check = none := by
    rw [overrideFailure?, hoverride]
    rfl
  have hdecided : prepared.check.inSync q.override = true := by
    rw [hoverride]
    exact hsync
  rw [exportAndSend, Run.bind_of_ok (Prod.ext hprepare rfl), hfailure,
    Run.bind_of_ok (Run.failing_apply none _), if_pos hdecided]
  rfl

/-- An item that was sent is in sync when it is pushed again under the same settings, with other
dates and its sections in another order. -/
theorem Sends.findsInSync
    {p : PushSetup σ} (hoverride : p.override = none) (hpure : p.HasPureFilter) {id : Text}
    {w w' : World σ} {c d : Content} {fresh : Text}
    (h : p.Sends id w c fresh w'.state) (hsame : c.SameButDates d)
    (htheme : p.themes.used d.sections = p.themes.used c.sections)
    (hc : w.content? id = some c) (hd : w'.content? id = some d)
    (hsettings : w'.settings = w.settings) {scheduled : Bool}
    (hqueueing : w'.isQueueing scheduled = false) : p.FindsInSync id scheduled w' fresh := by
  obtain ⟨space, hspace⟩ := h.room
  obtain ⟨v, document, result, prepared, hv, hpreparable, rfl⟩ := h.prepared
  obtain ⟨hreach, hconfigured, c', hc', hverdict⟩ := h.accepts
  obtain rfl := Option.some.inj (hc'.symm.trans hc)
  have haccepts : p.Accepts id w' := by
    refine ⟨h.nameFault.trans hreach, by rw [hsettings]; exact hconfigured, d, hd, ?_⟩
    rw [verdict_of_sameButDates hsame, hsettings]
    exact hverdict
  -- the second push prepares its item in the world that accepting it and opening a workspace leave
  obtain ⟨room, u, hu, hmarked, -, hroom, hpush⟩ := push_of_accepts haccepts hd hspace
  have hreach' : u.state.nameFault? [c'.label] = none := by
    rw [hmarked, ← h.reach]
    exact (KeepsItems.set w'.state id inProgressKey _).nameFault _
  have hstored : u.state.checksum c'.label = .str prepared.check.fingerprint := by
    have hmarkers := SameButMarkers.of_markInProgress w'.state id c'.label _
      checksumKey_not_mem_markerKeys
    rw [hmarked, StateStore.checksum, hmarkers]
    exact h.checksum
  have hsettings' : u.settings = v.settings := (hu.trans hsettings).trans hv.symm
  obtain ⟨document', result', prepared', hagain, hfresh, hsync⟩ :=
    hpreparable.again hpure hsame htheme hsettings' hreach' hstored
  have hprepare := hagain.prepare hroom (isPresent_of_create hspace)
  have hexport := exportAndSend_of_inSync hoverride hprepare hsync
  have hresult : (p.perform id scheduled w').1 = .ok (skippedInSync d.label prepared') := by
    rw [perform_of_pushing hqueueing, hpush, hexport]
    rfl
  have hanswer : (skippedInSync d.label prepared').SaysInSync (w'.labelOf id) := by
    rw [World.labelOf_eq hd]
    exact ⟨rfl, List.mem_append_right _ (List.mem_singleton_self _)⟩
  rw [← hfresh]
  exact findsInSync_of_result hqueueing haccepts h.isClear hresult hanswer

/-- Unchanged content is not pushed again.  Where a push has created or updated the article of an
item, a later push of the item finds it in sync, though its dates may have changed and its sections
may stand in another order for which the same theme is used. -/
theorem perform_again_findsInSync
    (p : PushSetup σ) (hoverride : p.override = none) (hpure : p.HasPureFilter)
    {id : Text} {scheduled scheduled' : Bool} {w w' : World σ} {c d : Content}
    (hqueueing : w.isQueueing scheduled = false) (hc : w.content? id = some c)
    {r : PushResult} (hr : (p.perform id scheduled w).1 = .ok r)
    (hsent : r.status = .created ∨ r.status = .updated)
    (hsettings : w'.settings = w.settings)
    (hkept : w'.state.holdings = (p.perform id scheduled w).2.state.holdings)
    (hqueueing' : w'.isQueueing scheduled' = false) (hd : w'.content? id = some d)
    (hsame : c.SameButDates d) (htheme : p.themes.used d.sections = p.themes.used c.sections) :
    p.FindsInSync id scheduled' w' r.checksum := by
  have hsends := (sends_of_perform hqueueing hc hr hsent).congr hkept
  exact hsends.findsInSync hoverride hpure hsame htheme hc hd hsettings hqueueing'

/-! ## A first push -/

theorem Preparable.congr
    {p : PushSetup σ} {v w : World σ} {c : Content} {document : Table Json}
    {result : ExportResult} {prepared : Prepared}
    (h : p.Preparable v c document result prepared) (hsettings : w.settings = v.settings)
    (hreach : w.state.nameFault? [c.label] = v.state.nameFault? [c.label])
    (hchecksum : w.state.checksum c.label = v.state.checksum c.label) :
    p.Preparable w c document result prepared := by
  constructor
  · rw [hsettings]
    exact h.exported
  · exact h.written
  · rw [hsettings]
    exact h.shipped
  · exact h.filtered
  · rw [hreach]
    exact h.reached
  · rw [hchecksum]
    exact h.checked

theorem deliver_of_unpublished
    {p : PushSetup σ} {id : Text} {s : Shipment} {w : World σ} {service : σ}
    {record : ArticleRecord} (hunpublished : (w.state.remoteState id).isPublished = false)
    (hcreate : p.api.create (.obj s.document) w.settings.apiChannel s.bundles s.metadata w.service =
      (service, .ok record)) :
    (p.deliver id s w).1 = .ok (record, .created, false) := by
  have hcreated : p.create s w = (.ok record, { w with service := service }) := by
    rw [create, Run.bind_of_ok (Run.get_apply w)]
    change ((p.api.create _ _ _ _ w.service).2, { w with service := (p.api.create _ _ _ _ w.service).1 }) = _
    rw [hcreate]
  have htransmit : p.transmit id (w.state.remoteState id) s w =
      (.ok (record, .created), { w with service := service }) := by
    rw [transmit, if_neg (by simp [hunpublished]), Run.bind_of_ok hcreated]
    rfl
  rw [deliver, Run.bind_of_ok (Run.get_apply w), Run.handle_apply, Run.bind_of_ok htransmit]
  rfl

/-- An item without a remote article and without a fingerprint is created where it can be prepared
and the service accepts it. -/
theorem perform_creates
    {p : PushSetup σ} (hoverride : p.override = none) {id : Text} {scheduled : Bool} {w : World σ}
    {c : Content} (hqueueing : w.isQueueing scheduled = false) (haccepts : p.Accepts id w)
    (hc : w.content? id = some c) {space : Workspace} (hspace : Workspace.create [] id = .ok space)
    {document : Table Json} {result : ExportResult} {prepared : Prepared}
    (hprepared : p.Preparable w c document result prepared)
    (hstored : w.state.checksum c.label = .null)
    (hunpublished : (w.state.remoteState c.label).isPublished = false)
    {service : σ} {record : ArticleRecord}
    (hcreate : p.api.create (.obj prepared.shipment.document) w.settings.apiChannel
      prepared.shipment.bundles prepared.shipment.metadata w.service = (service, .ok record)) :
    ∃ r, (p.perform id scheduled w).1 = .ok r ∧ r.status = .created := by
  obtain ⟨room, u, hsettings, hmarked, hservice, hroom, hpush⟩ := push_of_accepts haccepts hc hspace
  have hmarkers : w.state.SameButMarkers u.state := hmarked ▸ .of_markInProgress w.state id
  have hchecksum := hmarkers c.label _ checksumKey_not_mem_markerKeys
  have hnames : u.state.nameFault? [c.label] = w.state.nameFault? [c.label] := by
    rw [hmarked]
    exact (KeepsItems.set w.state id inProgressKey _).nameFault _
  have hprepare := (hprepared.congr hsettings hnames hchecksum).prepare hroom
    (isPresent_of_create hspace)
  have hquiet := p.quiet_prepare room c u
  have hsync : prepared.check.inSync p.override = false := by
    have hnone : prepared.check.stored = none := by
      rw [hprepared.prepares.stored, hstored]
      rfl
    rw [hoverride]
    change isInSync prepared.check.stored prepared.check.fingerprint = false
    rw [hnone]
    rfl
  have hfailure : p.overrideFailure? prepared.check = none := by
    rw [overrideFailure?, hoverride]
    rfl
  have hunpublished' : ((p.prepare room c u).2.state.remoteState c.label).isPublished = false := by
    rw [hquiet.state, hmarkers.remoteState_eq]
    exact hunpublished
  have hcreate' : p.api.create (.obj prepared.shipment.document)
      (p.prepare room c u).2.settings.apiChannel prepared.shipment.bundles
      prepared.shipment.metadata (p.prepare room c u).2.service = (service, .ok record) := by
    rw [hquiet.settings, hquiet.service, hsettings, hservice]
    exact hcreate
  have hdeliver := deliver_of_unpublished hunpublished' hcreate'
  refine ⟨delivered c.label prepared record .created false, ?_, rfl⟩
  rw [perform_of_pushing hqueueing, hpush, exportAndSend, Run.bind_of_ok (Prod.ext hprepare rfl),
    hfailure, Run.bind_of_ok (Run.failing_apply none _), if_neg (by simp [hsync]), send,
    Run.bind_of_ok (Prod.ext hdeliver rfl)]
  rfl

/-- The setup of a rehearsal that offers content to the built-in variants. -/
def newsroom : PushSetup Rehearsal := { ofApi Rehearsal.api with variants := Variant.standard }

/-- The world of a rehearsal in which a single item has not been pushed yet. -/
def firstWorld (settings : Settings) (c : Content) : World Rehearsal :=
  .fresh settings (.ofList [c]) .initial

/-- Whether a shipment can be written and has a fingerprint. -/
def isWritable (s : Shipment) : Bool :=
  decide (Json.obj s.document).IsScalar && decide (Json.obj s.metadata).IsScalar &&
    s.bundles.all (fun t => decide t.IsScalar) &&
    (fingerprintValue s.document s.metadata s.bundles).unordered?.isNone

theorem exists_preparable_of_isWritable
    {settings : Settings} {c : Content} {s : Shipment} (h : newsroom.shipmentOf settings c = .ok s)
    (hwritable : isWritable s = true) :
    ∃ document result prepared,
      newsroom.Preparable (firstWorld settings c) c document result prepared ∧
        prepared.shipment = s := by
  simp only [isWritable, Bool.and_eq_true, decide_eq_true_eq, List.all_eq_true,
    Option.isNone_iff_eq_none] at hwritable
  obtain ⟨⟨⟨hdocument, hmetadata⟩, hbundles⟩, hordered⟩ := hwritable
  obtain ⟨fresh, hfresh⟩ := exists_fingerprint hdocument hmetadata hbundles hordered
  obtain ⟨⟨document, result, messages⟩, hexported, hshipped⟩ := exceptBind_eq_ok h
  have hshipment := exceptMapError_eq_ok hshipped
  have hsent : s.document = document := by
    obtain ⟨cleaned, -, hpublish⟩ := exceptBind_eq_ok hshipment
    obtain ⟨metadata, -, hdone⟩ := exceptBind_eq_ok hpublish
    cases hdone
    rfl
  refine ⟨document, result, ⟨s, messages, ⟨c.label, none, fresh, .obj s.document, s.metadata,
    s.bundles⟩⟩, ⟨hexported, hsent ▸ hdocument, hshipment, rfl, rfl, ?_⟩, rfl⟩
  rw [SyncCheck.ofExport, hfresh]
  rfl

/-- An item in two sections. -/
def bulletin : Content :=
  { Content.blank "7" with
    html := "<p>Text</p>"
    sections := ["sports", "news"]
    modified := some ⟨2026, 1, 1, 9, 30, 0, 0, none⟩ }

/-- The same item a day later, its sections in another order. -/
def laterBulletin : Content :=
  { bulletin with
    sections := ["news", "sports"]
    modified := some ⟨2026, 1, 2, 9, 30, 0, 0, none⟩ }

/-- A world that has a version of the item, and in which nothing has been pushed yet. -/
def newsWorld (c : Content) : World Rehearsal :=
  .fresh (.ofAccount false) (.ofList [c]) .initial

/-- The metadata that are sent along with every version of the item. -/
def newsMetadata : Table Json :=
  [("data", .obj [("links", .obj [("sections", .texts
    ["https://news-api.apple.com/sections/news", "https://news-api.apple.com/sections/sports"])])])]

theorem publishMetadata_bulletin :
    publishMetadata (.ofAccount false) none bulletin = .ok newsMetadata := by
  let urls : List Text :=
    ["https://news-api.apple.com/sections/news", "https://news-api.apple.com/sections/sports"]
  have hordered : urls.Pairwise fun s t => Text.le s t = true := by decide +kernel
  have hsorted : Text.sorted
      ([.text "sports", .text "news"].map (Settings.ofAccount false).sectionUrl) = urls :=
    (Text.sorted_eq_of_perm (.swap _ _ _)).trans (List.mergeSort_of_pairwise hordered)
  have hlinks : sectionLinks (.ofAccount false) [.text "sports", .text "news"] =
      ([("links", .obj [("sections", .texts ["https://news-api.apple.com/sections/news",
        "https://news-api.apple.com/sections/sports"])])] : Table Json) := by
    rw [sectionLinks, hsorted]
    rfl
  rw [publishMetadata]
  change Except.ok [(_, Json.ofKeyed (KeyTable.update (KeyTable.ofTable
    (sectionLinks _ [.text "sports", .text "news"] ++ _ ++ _)) []))] = _
  rw [hlinks]
  rfl

theorem document_bulletin :
    (newsroom.document (.ofAccount false) bulletin).toOption.any (fun x =>
      decide (Json.obj x.1).IsScalar && (fingerprintValue x.1 newsMetadata []).unordered?.isNone &&
        x.2.1.bundles.isEmpty) = true := by
  decide +kernel

theorem exists_preparable_bulletin :
    ∃ document result prepared,
      newsroom.Preparable (newsWorld bulletin) bulletin document result prepared := by
  obtain ⟨⟨document, result, messages⟩, hdocument, hholds⟩ := exists_of_holds document_bulletin
  simp only [Bool.and_eq_true, decide_eq_true_eq, Option.isNone_iff_eq_none, List.isEmpty_iff]
    at hholds
  obtain ⟨⟨hscalar, hordered⟩, hbundles⟩ := hholds
  have hmetadata : (Json.obj newsMetadata).IsScalar := by decide +kernel
  let s : Shipment := ⟨document, [], newsMetadata⟩
  have hshipped : newsroom.shipmentOf (.ofAccount false) bulletin = .ok s := by
    have hclean : cleanBundles [] = .ok [] := rfl
    have hpublished : publishMetadata (.ofAccount false) newsroom.filter bulletin =
        .ok newsMetadata :=
      publishMetadata_bulletin
    rw [shipmentOf, hdocument]
    change (newsroom.shipment _ bulletin document result.bundles).mapError _ = _
    rw [hbundles, shipment, hclean, hpublished]
    rfl
  have hwritable : isWritable s = true := by
    simp [isWritable, s, hscalar, hmetadata, hordered]
  obtain ⟨document', result', prepared, hprepared, -⟩ :=
    exists_preparable_of_isWritable hshipped hwritable
  exact ⟨document', result', prepared, hprepared⟩

/-- An item is not pushed again a day later, with its sections in another order. -/
theorem findsInSync_of_laterBulletin :
    ∃ r, (newsroom.perform "7" false (newsWorld bulletin)).1 = .ok r ∧ r.status = .created ∧
      newsroom.FindsInSync "7" false
        { newsWorld laterBulletin with
          state := (newsroom.perform "7" false (newsWorld bulletin)).2.state } r.checksum := by
  have haccepts : newsroom.Accepts "7" (newsWorld bulletin) := ⟨rfl, rfl, bulletin, rfl, rfl⟩
  have hspace : Workspace.create [] "7" = .ok ⟨true, none⟩ := rfl
  obtain ⟨document, result, prepared, hprepared⟩ := exists_preparable_bulletin
  have hcreates : ∃ r, (newsroom.perform "7" false (newsWorld bulletin)).1 = .ok r ∧
      r.status = .created :=
    perform_creates rfl rfl haccepts rfl hspace hprepared rfl rfl rfl
  obtain ⟨r, hr, hcreated⟩ := hcreates
  have hpure : newsroom.HasPureFilter := fun _ _ _ _ _ => rfl
  have hsame : bulletin.SameButDates laterBulletin :=
    ⟨rfl, rfl, rfl, .swap _ _ _, rfl, rfl, rfl, rfl⟩
  have hlater : ∀ t : StateStore,
      t.holdings = (newsroom.perform "7" false (newsWorld bulletin)).2.state.holdings →
        newsroom.FindsInSync "7" false { newsWorld laterBulletin with state := t } r.checksum :=
    fun t hkept => perform_again_findsInSync newsroom rfl hpure rfl rfl hr (.inl hcreated) rfl hkept
      rfl rfl hsame rfl
  exact ⟨r, hr, hcreated, hlater _ rfl⟩

end PushSetup

end ArticleExport
