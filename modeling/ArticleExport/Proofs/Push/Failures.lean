import ArticleExport.Proofs.Article.Addresses
import ArticleExport.Proofs.Article.Existence
import ArticleExport.Proofs.Push.Sent

/-!
# The failures that a push does not report

A push reports errors of the export and of the service as results, and nothing else that goes
wrong.  Without functions of the host, with a store that can be used for the item and a service
that fails with errors of its own, such a failure comes of the item: its terms cannot be looked at,
its identifier is unfit for the name of a directory, or what is to be sent for it cannot be
prepared.

`PushSetup.Unfit` lists what keeps an item from being prepared, in the order in which it is found
out; `PushSetup.perform_raises_iff` says when a push raises a failure, and which.
-/

namespace ArticleExport

variable {σ α β : Type}

/-! ## Runs that fail with errors only -/

/-- A call fails with an error of the service, where it fails. -/
def ApiCall.FailsRemotely (f : ApiCall σ α) : Prop :=
  ∀ s g, (f s).2 = .error g → ∃ e, g = .error (.remote e)

/-- The calls that a push makes fail with errors of the service only. -/
structure PublishingApi.FailsRemotely (api : PublishingApi σ) : Prop where
  create : ∀ document channel bundles metadata,
    (api.create document channel bundles metadata).FailsRemotely
  update : ∀ remoteId revision document bundles metadata,
    (api.update remoteId revision document bundles metadata).FailsRemotely
  get : ∀ remoteId, (api.get remoteId).FailsRemotely

namespace Rehearsal

theorem failsRemotely_noted {name : Text} {given : List Json} {f : ApiCall Rehearsal α}
    (h : f.FailsRemotely) : (noted name given f).FailsRemotely := by
  intro s g hg
  rw [noted] at hg
  split at hg
  · exact ⟨_, (Except.error.inj hg).symm⟩
  · exact h _ g hg

theorem failsRemotely_api : api.FailsRemotely where
  create document channel bundles metadata := failsRemotely_noted fun _ _ h => nomatch h
  update remoteId revision document bundles metadata := failsRemotely_noted fun s g h => by
    dsimp only at h
    split at h
    · exact ⟨_, (Except.error.inj h).symm⟩
    · cases h
  get remoteId := failsRemotely_noted fun s g h => by
    dsimp only at h
    split at h
    · cases h
    · exact ⟨_, (Except.error.inj h).symm⟩

end Rehearsal

namespace Run

/-- The run ends with a fault. -/
def Faults (r : Run σ α) (w : World σ) (f : Fault) : Prop := (r w).1 = .error (.fault f)

/-- Where the run fails, it fails with an error of the export or push. -/
def IsReportable (r : Run σ α) : Prop := ∀ w f, ¬r.Faults w f

theorem Faults.of_bind {r : Run σ α} {k : α → Run σ β} {w : World σ} {f : Fault}
    (h : (r >>= k).Faults w f) : r.Faults w f ∨ ∃ a v, r w = (.ok a, v) ∧ (k a).Faults v f := by
  rw [Faults] at h
  rcases bind_cases r k w with ⟨e, v, hr, hbind⟩ | ⟨a, v, hr, hbind⟩
  · rw [hbind] at h
    obtain rfl : e = .fault f := Except.error.inj h
    exact .inl (congrArg Prod.fst hr)
  · rw [hbind] at h
    exact .inr ⟨a, v, hr, h⟩

theorem faults_bind_of_ok {r : Run σ α} {k : α → Run σ β} {w v : World σ} {a : α} {f : Fault}
    (h : r w = (.ok a, v)) : (r >>= k).Faults w f ↔ (k a).Faults v f := by
  rw [Faults, bind_of_ok h, Faults]

theorem isReportable_pure (a : α) : (pure a : Run σ α).IsReportable :=
  fun _ _ h => nomatch h

theorem isReportable_error (e : ExportError) : (throw (.error e) : Run σ α).IsReportable :=
  fun _ _ h => nomatch h

theorem isReportable_onState (change : StateStore → StateStore) :
    (onState change : Run σ Unit).IsReportable :=
  fun _ _ h => nomatch h

theorem isReportable_get : (get : Run σ (World σ)).IsReportable :=
  fun _ _ h => nomatch h

theorem isReportable_call {f : ApiCall σ α} (h : f.FailsRemotely) : (call f).IsReportable := by
  intro w g hg
  obtain ⟨e, he⟩ := h w.service _ hg
  cases he

theorem IsReportable.bind {r : Run σ α} {k : α → Run σ β} (hr : r.IsReportable)
    (hk : ∀ a, (k a).IsReportable) : (r >>= k).IsReportable := by
  intro w f h
  rcases h.of_bind with hfirst | ⟨a, v, -, hsecond⟩
  · exact hr w f hfirst
  · exact hk a v f hsecond

/-- A handler has to do with errors only where the run fails with errors only. -/
theorem IsReportable.handle {r : Run σ α} {handler : Failure → Run σ α} (hr : r.IsReportable)
    (hhandler : ∀ e, (handler (.error e)).IsReportable) : (r.handle handler).IsReportable := by
  intro w f h
  rw [Faults, handle_apply] at h
  rcases hrun : r w with ⟨g | a, v⟩
  · rw [hrun] at h
    cases g with
    | error e => exact hhandler e v f h
    | fault g => exact hr w g (by rw [Faults, hrun])
  · rw [hrun] at h
    cases h

end Run

namespace PushSetup

/-! ## Sending -/

section Sending

variable {p : PushSetup σ} (hapi : p.api.FailsRemotely)

include hapi

theorem isReportable_create (s : Shipment) : (p.create s).IsReportable :=
  Run.isReportable_get.bind fun _ => Run.isReportable_call (hapi.create _ _ _ _)

theorem isReportable_update (id remoteId : Text) (s : Shipment) :
    (p.update id remoteId s).IsReportable := by
  refine (Run.isReportable_call (hapi.get remoteId)).bind fun current => ?_
  split
  · exact Run.isReportable_error _
  · exact (Run.isReportable_onState _).bind fun _ => Run.isReportable_call (hapi.update _ _ _ _ _)

theorem isReportable_transmit (id : Text) (remote : RemoteState) (s : Shipment) :
    (p.transmit id remote s).IsReportable := by
  rw [transmit]
  split
  · exact (isReportable_update hapi _ _ _).bind fun _ => Run.isReportable_pure _
  · exact (isReportable_create hapi _).bind fun _ => Run.isReportable_pure _

theorem isReportable_recover (id : Text) (cause : RemoteError) (s : Shipment) :
    (p.recover id cause s).IsReportable := by
  refine (Run.isReportable_onState _).bind fun _ => ?_
  refine (isReportable_transmit hapi _ _ _).handle fun e => ?_
  cases e <;> exact Run.isReportable_error _

theorem isReportable_deliver (id : Text) (s : Shipment) : (p.deliver id s).IsReportable := by
  refine Run.isReportable_get.bind fun w => ?_
  refine ((isReportable_transmit hapi _ _ _).bind fun _ => Run.isReportable_pure _).handle fun e => ?_
  split
  · exact (isReportable_recover hapi _ _ _).bind fun _ => Run.isReportable_pure _
  · exact Run.isReportable_error e

/-- Nothing but errors comes of sending what was prepared. -/
theorem isReportable_send (id : Text) (prepared : Prepared) :
    (p.send id prepared).IsReportable := by
  refine (isReportable_deliver hapi _ _).bind fun _ => ?_
  exact (Run.isReportable_onState _).bind fun _ => Run.isReportable_pure _

end Sending

/-! ## Preparing -/

/-- What keeps an item from being prepared and is no error: where its markup is read, its article
put together, its document written, its entries for the metadata looked at, or its fingerprint
taken. -/
inductive Unfit (p : PushSetup σ) (settings : Settings) (c : Content) : Fault → Prop
  /-- The markup cannot be read. -/
  | markup {f : Fault} (hread : Node.parse c.html = .error f) : Unfit p settings c f
  /-- The article cannot be put together. -/
  | article {root : Node} {f : Fault} (hread : Node.parse c.html = .ok root)
      (hassemble : (p.assembler settings).assemble root c.sections c.info = .error (.fault f)) :
      Unfit p settings c f
  /-- The document has no byte form. -/
  | document {document : Table Json} {result : ExportResult} {messages : List Text}
      (hdocument : p.document settings c = .ok (document, result, messages))
      (hsurrogate : ¬(Json.obj document).IsScalar) :
      Unfit p settings c .unencodable
  /-- An entry for the metadata has a key that is none. -/
  | entry {document : Table Json} {result : ExportResult} {messages : List Text} {f : Fault}
      (hdocument : p.document settings c = .ok (document, result, messages))
      (hscalar : (Json.obj document).IsScalar) (hentry : customEntries c.custom = .error f) :
      Unfit p settings c f
  /-- Two keys of a mapping have no order. -/
  | order {document : Table Json} {result : ExportResult} {messages : List Text} {s : Shipment}
      {later earlier : Key}
      (hdocument : p.document settings c = .ok (document, result, messages))
      (hscalar : (Json.obj document).IsScalar)
      (hshipment : p.shipment settings c document result.bundles = .ok s)
      (hunordered : (fingerprintValue document s.metadata s.bundles).unordered? =
        some (later, earlier)) :
      Unfit p settings c (.unorderedKeys later.kindName earlier.kindName)
  /-- The metadata or the bundles have no byte form. -/
  | metadata {document : Table Json} {result : ExportResult} {messages : List Text} {s : Shipment}
      (hdocument : p.document settings c = .ok (document, result, messages))
      (hscalar : (Json.obj document).IsScalar)
      (hshipment : p.shipment settings c document result.bundles = .ok s)
      (hordered : (fingerprintValue document s.metadata s.bundles).unordered? = none)
      (hsurrogate : ¬((Json.obj s.metadata).IsScalar ∧ ∀ t ∈ s.bundles, t.IsScalar)) :
      Unfit p settings c .unencodable

section Preparing

variable {p : PushSetup σ} {settings : Settings} {c : Content} {f : Fault}

/-- What the user is told is no fault. -/
theorem alerts_ne_fault (names : List Text) : alerts settings names ≠ .error (.fault f) := by
  intro h
  rw [alerts] at h
  split at h
  · cases h
  · split at h <;> cases h

/-- Of the document of an item nothing but the markup and the article can fail with a fault. -/
theorem document_eq_fault_iff :
    p.document settings c = .error (.fault f) ↔
      Node.parse c.html = .error f ∨ ∃ root, Node.parse c.html = .ok root ∧
        (p.assembler settings).assemble root c.sections c.info = .error (.fault f) := by
  have htold : ∀ result : ExportResult,
      (alerts settings (result.issues.map ComponentIssue.component)).bind (fun messages =>
        ((validateDocument (.ofJson (.obj result.article))).mapError Failure.error).bind fun document =>
          Except.ok (document, result, messages)) ≠ .error (.fault f) := by
    intro result h
    rcases exceptBind_eq_error_iff.mp h with halerts | ⟨messages, -, hrest⟩
    · exact alerts_ne_fault _ halerts
    · rcases exceptBind_eq_error_iff.mp hrest with hvalid | ⟨document, -, hdone⟩
      · cases hvalidate : validateDocument (.ofJson (.obj result.article)) <;>
          rw [hvalidate] at hvalid <;> cases hvalid
      · cases hdone
  refine Iff.trans (exceptBind_eq_error_iff (x := (p.assembler settings).export c)) ?_
  refine Iff.trans (or_iff_left fun ⟨result, hrest⟩ => htold result hrest.2) ?_
  refine Iff.trans (exceptBind_eq_error_iff (x := (Node.parse c.html).mapError Failure.fault)) ?_
  cases Node.parse c.html with
  | error g => simp [Except.mapError]
  | ok root => simp [Except.mapError]

theorem shipment_eq_error_iff {document : Table Json} {result : ExportResult}
    {messages : List Text} (hdocument : p.document settings c = .ok (document, result, messages)) :
    p.shipment settings c document result.bundles = .error f ↔
      customEntries c.custom = .error f := by
  obtain ⟨root, -, hassembled, -, -⟩ := assembled_of_document hdocument
  obtain ⟨bundles, hbundles⟩ := exists_cleanFrom
    (fun t ht => Setup.exists_read_of_mem_bundles hassembled ht) []
  change ((cleanFrom [] result.bundles).bind fun bundles =>
    (publishMetadata settings p.filter c).bind fun metadata =>
      Except.ok (⟨document, bundles, metadata⟩ : Shipment)) = _ ↔ _
  rw [hbundles]
  change ((customEntries c.custom).bind _).bind _ = _ ↔ _
  cases customEntries c.custom with
  | error g => simp [Except.bind]
  | ok custom => simp [Except.bind, pure, Except.pure]

theorem document_of_shipment {s : Shipment} {document : Table Json} {bundles : List Text}
    (h : p.shipment settings c document bundles = .ok s) : s.document = document := by
  obtain ⟨cleaned, -, hrest⟩ := exceptBind_eq_ok h
  obtain ⟨metadata, -, hdone⟩ := exceptBind_eq_ok hrest
  exact (congrArg Shipment.document (Except.ok.inj hdone)).symm

theorem ne_nil_of_validateDocument {v : HostValue} {document : Table Json}
    (h : validateDocument v = .ok document) : document ≠ [] := by
  rw [validateDocument] at h
  split at h
  · cases h
  · cases h
    exact List.cons_ne_nil _ _
  · cases h

/-- The stages at which an item turns out to be unfit: its document, the writing of it, its
shipment, and the fingerprint of that. -/
theorem unfit_iff :
    p.Unfit settings c f ↔
      p.document settings c = .error (.fault f) ∨
        ∃ document result messages, p.document settings c = .ok (document, result, messages) ∧
          ((¬(Json.obj document).IsScalar ∧ f = .unencodable) ∨
            ((Json.obj document).IsScalar ∧
              (p.shipment settings c document result.bundles = .error f ∨
                ∃ s, p.shipment settings c document result.bundles = .ok s ∧
                  ArticleExport.fingerprint (.obj document) s.metadata s.bundles = .error f))) := by
  have hne {document result messages}
      (hdocument : p.document settings c = .ok (document, result, messages)) : document ≠ [] := by
    obtain ⟨_, -, -, -, hvalid⟩ := assembled_of_document hdocument
    exact ne_nil_of_validateDocument hvalid
  constructor
  · intro h
    cases h with
    | markup hread => exact .inl (document_eq_fault_iff.mpr (.inl hread))
    | article hread hassemble =>
        exact .inl (document_eq_fault_iff.mpr (.inr ⟨_, hread, hassemble⟩))
    | document hdocument hsurrogate =>
        exact .inr ⟨_, _, _, hdocument, .inl ⟨hsurrogate, rfl⟩⟩
    | entry hdocument hscalar hentry =>
        have hshipment := (shipment_eq_error_iff hdocument).mpr hentry
        exact .inr ⟨_, _, _, hdocument, .inr ⟨hscalar, .inl hshipment⟩⟩
    | order hdocument hscalar hshipment hunordered =>
        have hfresh := (fingerprint_eq_error_iff hscalar (hne hdocument)).mpr
          (.inl ⟨_, _, hunordered, rfl⟩)
        exact .inr ⟨_, _, _, hdocument, .inr ⟨hscalar, .inr ⟨_, hshipment, hfresh⟩⟩⟩
    | metadata hdocument hscalar hshipment hordered hsurrogate =>
        have hfresh := (fingerprint_eq_error_iff hscalar (hne hdocument)).mpr
          (.inr ⟨hordered, hsurrogate, rfl⟩)
        exact .inr ⟨_, _, _, hdocument, .inr ⟨hscalar, .inr ⟨_, hshipment, hfresh⟩⟩⟩
  · rintro (hfault | ⟨document, result, messages, hdocument, ⟨hsurrogate, rfl⟩ | ⟨hscalar, hrest⟩⟩)
    · rcases document_eq_fault_iff.mp hfault with hread | ⟨root, hread, hassemble⟩
      · exact .markup hread
      · exact .article hread hassemble
    · exact .document hdocument hsurrogate
    · rcases hrest with hshipment | ⟨s, hshipment, hfresh⟩
      · exact .entry hdocument hscalar ((shipment_eq_error_iff hdocument).mp hshipment)
      · rcases (fingerprint_eq_error_iff hscalar (hne hdocument)).mp hfresh with
          ⟨later, earlier, hunordered, rfl⟩ | ⟨hordered, hsurrogate, rfl⟩
        · exact .order hdocument hscalar hshipment hunordered
        · exact .metadata hdocument hscalar hshipment hordered hsurrogate

/-- A document without a byte form cannot be written. -/
theorem writeDocument_of_not_isScalar {room : Text} {document : Table Json} {w : World σ}
    {space : Workspace} (hroom : Table.get? room w.temporary = some space)
    (hspace : space.isPresent = true) (hsurrogate : ¬(Json.obj document).IsScalar) :
    (writeDocument room document w).1 = .error (.fault .unencodable) := by
  have hprint := (Json.isScalar_print_iff Json.isScalar_indented (.obj document)).not.mpr hsurrogate
  rw [writeDocument, Run.bind_of_ok (Run.get_apply w), hroom]
  dsimp only
  rw [Run.bind_of_ok (Run.set_apply _ w), Run.ofFault_apply, Workspace.write, hspace]
  simp [hprint, Except.mapError]

section Written

variable {room : Text} {w : World σ} {space : Workspace}
  (hroom : Table.get? room w.temporary = some space) (hspace : space.isPresent = true)
  (hfilter : p.filter = none) (hreach : w.state.nameFault? [c.label] = none)

include hroom hspace hfilter hreach

/-- Once its document is written, an item cannot be prepared for a fault just where it has no shipment or
that has no fingerprint. -/
theorem prepare_faults_iff_of_document
    {document : Table Json} {result : ExportResult} {messages : List Text}
    (hdocument : p.document w.settings c = .ok (document, result, messages))
    (hscalar : (Json.obj document).IsScalar) :
    (p.prepare room c).Faults w f ↔
      p.shipment w.settings c document result.bundles = .error f ∨
        ∃ s, p.shipment w.settings c document result.bundles = .ok s ∧
          ArticleExport.fingerprint (.obj document) s.metadata s.bundles = .error f := by
  have hwrite := writeDocument_eq_ok_iff.mpr ⟨space, hroom, hspace, hscalar⟩
  obtain ⟨v, hwritten⟩ : ∃ v, writeDocument room document w = (.ok ⟨⟩, v) :=
    ⟨_, Prod.ext hwrite rfl⟩
  rw [prepare, Run.faults_bind_of_ok (Run.get_apply w)]
  dsimp only
  rw [hdocument, Run.faults_bind_of_ok (Run.ofExcept_apply _ w)]
  dsimp only
  rw [Run.faults_bind_of_ok hwritten]
  cases hshipment : p.shipment w.settings c document result.bundles with
  | error g =>
      rw [Run.Faults, Run.bind_of_error (Run.ofFault_apply _ v)]
      simp
  | ok s =>
      have hfiltered : p.filterFailure? c = none := by
        rw [filterFailure?, hfilter]
        rfl
      -- what comes next reads the store, which writing the document has left as it was
      have hreached : (Run.reach c.label : Run σ Unit) v = (.ok ⟨⟩, v) := by
        rw [Run.reach_apply, ((quiet_writeDocument room document).of_eq hwritten).state, hreach]
      rw [Run.faults_bind_of_ok (Run.ofFault_apply _ v), hfiltered,
        Run.faults_bind_of_ok (Run.failing_apply none v), Run.faults_bind_of_ok hreached,
        Run.faults_bind_of_ok (Run.get_apply v)]
      obtain rfl := document_of_shipment hshipment
      rw [SyncCheck.ofExport]
      cases hfresh : ArticleExport.fingerprint (.obj s.document) s.metadata s.bundles with
      | error g =>
          rw [Run.Faults, Run.bind_of_error (Run.ofFault_apply _ v)]
          simp [hfresh]
      | ok fresh =>
          rw [Run.faults_bind_of_ok (Run.ofFault_apply _ v)]
          exact iff_of_false (Run.isReportable_pure _ v f) (by simp [hfresh])

/-- An item cannot be prepared for a fault just where it is unfit. -/
theorem prepare_faults_iff : (p.prepare room c).Faults w f ↔ p.Unfit w.settings c f := by
  rw [unfit_iff]
  cases hdocument : p.document w.settings c with
  | error g =>
      rw [prepare, Run.faults_bind_of_ok (Run.get_apply w)]
      dsimp only
      rw [hdocument, Run.Faults, Run.bind_of_error (Run.ofExcept_apply _ w)]
      simp
  | ok exported =>
      obtain ⟨document, result, messages⟩ := exported
      by_cases hscalar : (Json.obj document).IsScalar
      · rw [prepare_faults_iff_of_document hroom hspace hfilter hreach hdocument hscalar]
        simp [hscalar]
      · have hwrite := writeDocument_of_not_isScalar hroom hspace hscalar
        rw [prepare, Run.faults_bind_of_ok (Run.get_apply w)]
        dsimp only
        rw [hdocument, Run.faults_bind_of_ok (Run.ofExcept_apply _ w)]
        dsimp only
        rw [Run.Faults, Run.bind_of_error (Prod.ext hwrite rfl)]
        simp [hscalar, eq_comm]

end Written

theorem exportAndSend_faults_iff {room : Text} {w : World σ} (hoverride : p.override = none)
    (hapi : p.api.FailsRemotely) :
    (p.exportAndSend room c).Faults w f ↔ (p.prepare room c).Faults w f := by
  rw [exportAndSend]
  rcases hprepare : p.prepare room c w with ⟨g | prepared, v⟩
  · rw [Run.Faults, Run.Faults, Run.bind_of_error hprepare, hprepare]
    simp
  · have hfailure : p.overrideFailure? prepared.check = none := by
      rw [overrideFailure?, hoverride]
      rfl
    rw [Run.faults_bind_of_ok hprepare, hfailure,
      Run.faults_bind_of_ok (Run.failing_apply none v)]
    refine iff_of_false ?_ ?_
    · split
      · exact Run.isReportable_pure _ v f
      · exact isReportable_send hapi c.label prepared v f
    · intro h
      rw [Run.Faults, hprepare] at h
      cases h

end Preparing

/-! ## Pushing -/

/-- The host has set up nothing that a push would call. -/
structure HasNoCallbacks (p : PushSetup σ) : Prop where
  shouldSkip : p.shouldSkip = none
  override : p.override = none
  filter : p.filter = none
  scheduler : p.scheduler = none

/-- What a push of an item raises. -/
inductive Raises (p : PushSetup σ) (id : Text) (w : World σ) : Fault → Prop
  /-- The terms of the item cannot be looked at. -/
  | terms {c : Content} {f : Fault} (hc : w.content? id = some c)
      (hterms : hasSkipTerm w.settings c = .error f) :
      Raises p id w f
  /-- The identifier is unfit for the name of a directory. -/
  | name {c : Content} {f : Fault} (hc : w.content? id = some c)
      (hterms : hasSkipTerm w.settings c = .ok false) (hname : Workspace.nameFault? id = some f) :
      Raises p id w f
  /-- What is to be sent for the item cannot be prepared. -/
  | content {c : Content} {f : Fault} (hc : w.content? id = some c)
      (hterms : hasSkipTerm w.settings c = .ok false) (hname : Workspace.nameFault? id = none)
      (hunfit : p.Unfit w.settings c f) :
      Raises p id w f

section Pushing

variable {p : PushSetup σ} {id : Text} {scheduled : Bool} {w : World σ} {f : Fault}

theorem create_eq (id : Text) :
    Workspace.create [] id =
      match Workspace.nameFault? id with
      | some f => .error f
      | none => .ok ⟨true, none⟩ :=
  rfl

theorem verdict_of_no_veto (hveto : p.shouldSkip = none) (settings : Settings) (c : Content) :
    p.verdict settings c =
      ((hasSkipTerm settings c).mapError Failure.fault).map fun skips =>
        if skips then some (PushWording.skipTerm c.label) else none := by
  rw [verdict, hostVerdict, hveto]
  cases hasSkipTerm settings c with
  | error f => rfl
  | ok skips => cases skips <;> rfl

theorem accept_of_verdict_error {c : Content} {g : Failure}
    (hconfigured : w.settings.isApiConfigured = true) (hc : w.content? id = some c)
    (hverdict : p.verdict w.settings c = .error g) :
    (p.accept id w).1 = .error g := by
  rw [← p.skipReason_verdict c w] at hverdict
  have hfound : KeyTable.get? (.text id) w.contents = some c := hc
  rw [accept, Run.bind_of_ok (Run.get_apply w), if_pos hconfigured, hfound]
  dsimp only
  rw [start, Run.bind_of_error (Prod.ext hverdict rfl)]

theorem accept_of_verdict_some {c : Content} {reason : Text}
    (hreach : w.state.nameFault? [id] = none) (hconfigured : w.settings.isApiConfigured = true)
    (hc : w.content? id = some c) (hverdict : p.verdict w.settings c = .ok (some reason)) :
    (p.accept id w).1 = .ok (.error (.brief id .skipped [reason])) := by
  rw [← p.skipReason_verdict c w] at hverdict
  have hfound : KeyTable.get? (.text id) w.contents = some c := hc
  have hreach' : (p.skipReason c w).2.state.nameFault? [id] = none := by
    rw [(p.quiet_skipReason c w).state, hreach]
  rw [accept, Run.bind_of_ok (Run.get_apply w), if_pos hconfigured, hfound]
  dsimp only
  rw [start, Run.bind_of_ok (Prod.ext hverdict rfl)]
  dsimp only
  rw [Run.bind_apply, unmark_apply, hreach']
  rfl

theorem accept_refused (hreach : w.state.nameFault? [id] = none)
    (h : w.settings.isApiConfigured = false ∨ w.content? id = none) :
    ∃ e, (p.accept id w).1 = .error (.error e) := by
  have hunmarked (e : ExportError) :
      ((unmark id >>= fun _ => throw (.error e) : Run σ (Except PushResult Content)) w).1 =
        .error (.error e) := by
    rw [Run.bind_apply, unmark_apply, hreach]
    rfl
  rw [accept, Run.bind_of_ok (Run.get_apply w)]
  split
  · rename_i hconfigured
    rcases h with hunconfigured | hmissing
    · rw [hunconfigured] at hconfigured
      cases hconfigured
    · have hnone : KeyTable.get? (.text id) w.contents = none := hmissing
      rw [hnone]
      exact ⟨_, hunmarked _⟩
  · exact ⟨_, hunmarked _⟩

/-- A push that has accepted its item raises what keeps the workspace from being opened, and what
keeps the item from being prepared. -/
theorem push_faults_iff_of_accepts (hcallbacks : p.HasNoCallbacks) (hapi : p.api.FailsRemotely)
    {c : Content} (haccepts : p.Accepts id w) (hc : w.content? id = some c)
    (hlabel : w.state.nameFault? [c.label] = none) :
    (p.push id).Faults w f ↔
      Workspace.nameFault? id = some f ∨
        (Workspace.nameFault? id = none ∧ p.Unfit w.settings c f) := by
  have hcreate := create_eq id
  cases hname : Workspace.nameFault? id with
  | some g =>
      rw [hname] at hcreate
      obtain ⟨v, -, haccept⟩ := accept_of_accepts haccepts hc
      rw [push, Run.Faults, Run.bind_of_ok haccept]
      dsimp only
      rw [Run.bind_apply, openWorkspace_apply, hcreate]
      simp
  | none =>
      rw [hname] at hcreate
      obtain ⟨room, u, hsettings, hmarked, -, hroom, hpush⟩ := push_of_accepts haccepts hc hcreate
      have hreach : u.state.nameFault? [c.label] = none := by
        rw [hmarked, ← hlabel]
        exact (StateStore.KeepsItems.set w.state id StateStore.inProgressKey _).nameFault _
      have hexport : (p.push id).Faults w f ↔ (p.exportAndSend room c).Faults u f := by
        rw [Run.Faults, Run.Faults, hpush]
      rw [hexport, exportAndSend_faults_iff hcallbacks.override hapi,
        prepare_faults_iff hroom (isPresent_of_create hcreate) hcallbacks.filter hreach, hsettings]
      simp

theorem raises_iff :
    p.Raises id w f ↔
      ∃ c, w.content? id = some c ∧
        (hasSkipTerm w.settings c = .error f ∨
          (hasSkipTerm w.settings c = .ok false ∧
            (Workspace.nameFault? id = some f ∨
              (Workspace.nameFault? id = none ∧ p.Unfit w.settings c f)))) := by
  constructor
  · intro h
    cases h with
    | terms hc hterms => exact ⟨_, hc, .inl hterms⟩
    | name hc hterms hname => exact ⟨_, hc, .inr ⟨hterms, .inl hname⟩⟩
    | content hc hterms hname hunfit => exact ⟨_, hc, .inr ⟨hterms, .inr ⟨hname, hunfit⟩⟩⟩
  · rintro ⟨c, hc, hterms | ⟨hterms, hname | ⟨hname, hunfit⟩⟩⟩
    · exact .terms hc hterms
    · exact .name hc hterms hname
    · exact .content hc hterms hname hunfit

theorem push_faults_iff (hcallbacks : p.HasNoCallbacks) (hapi : p.api.FailsRemotely)
    (hreach : w.state.nameFault? [id] = none) (hlabel : w.state.nameFault? [w.labelOf id] = none) :
    (p.push id).Faults w f ↔ w.settings.isApiConfigured = true ∧ p.Raises id w f := by
  have hrefused (h : w.settings.isApiConfigured = false ∨ w.content? id = none) :
      ¬(p.push id).Faults w f := by
    obtain ⟨e, haccept⟩ := accept_refused (p := p) hreach h
    intro hfaults
    rw [push, Run.Faults, Run.bind_of_error (Prod.ext haccept rfl)] at hfaults
    cases hfaults
  cases hconfigured : w.settings.isApiConfigured with
  | false => exact iff_of_false (hrefused (.inl hconfigured)) fun h => Bool.false_ne_true h.1
  | true =>
      rw [and_iff_right rfl, raises_iff]
      cases hc : w.content? id with
      | none => exact iff_of_false (hrefused (.inr hc)) (by simp)
      | some c =>
          rw [w.labelOf_eq hc] at hlabel
          have hverdict := verdict_of_no_veto hcallbacks.shouldSkip w.settings c
          simp only [Option.some.injEq, exists_eq_left']
          cases hterms : hasSkipTerm w.settings c with
          | error g =>
              rw [hterms] at hverdict
              have haccept := accept_of_verdict_error hconfigured hc hverdict
              rw [push, Run.Faults, Run.bind_of_error (Prod.ext haccept rfl)]
              simp
          | ok skips =>
              rw [hterms] at hverdict
              cases skips with
              | true =>
                  have haccept := accept_of_verdict_some hreach hconfigured hc hverdict
                  rw [push, Run.Faults, Run.bind_of_ok (Prod.ext haccept rfl)]
                  refine iff_of_false ?_ (by simp)
                  intro h
                  cases h
              | false =>
                  have haccepts : p.Accepts id w := ⟨hreach, hconfigured, c, hc, hverdict⟩
                  rw [push_faults_iff_of_accepts hcallbacks hapi haccepts hc hlabel]
                  simp

theorem report_eq_error_iff {o : Except Failure PushResult} {x : Failure} :
    report id o = .error x ↔ ∃ f, x = .fault f ∧ o = .error (.fault f) := by
  rcases o with (e | f) | r
  · exact iff_of_false nofun (by simp)
  · rw [report]
    · simp [eq_comm]
    · nofun
  · exact iff_of_false nofun (by simp)

theorem perform_of_faults (hpushing : w.isQueueing scheduled = false)
    (h : (p.push id).Faults w f) :
    (p.perform id scheduled w).1 = .error (.fault f) := by
  rw [perform_of_pushing hpushing]
  exact report_eq_error_iff.mpr ⟨f, rfl, h⟩

theorem eq_failed_of_report {o : Except Failure PushResult} {r : PushResult}
    (h : report id o = .ok r) : o = .ok r ∨ ∃ e, r = .failed id e := by
  rcases o with (e | f) | r'
  · exact .inr ⟨e, (Except.ok.inj h).symm⟩
  · cases h
  · exact .inl h

/-- A push that comes to its end has not failed. -/
theorem Course.status_ne_failed {calls : List ServiceCall} {change : StateStore → StateStore}
    {r : PushResult} (h : p.Course id w calls change (.ok r)) : r.status ≠ .failed := by
  cases h with
  | dismissed haccept =>
      cases haccept
      nofun
  | ran _ _ hsending =>
      cases hsending with
      | inSync => nofun
      | delivered _ hdelivery =>
          cases hdelivery.sentBy rfl with
          | created => nofun
          | updated => nofun

theorem Queueing.status_ne_failed {v : World σ} {o : Except Failure PushResult} {r : PushResult}
    (h : p.Queueing id w v o) (ho : o = .ok r) : r.status ≠ .failed := by
  cases h with
  | unhanded _ hpending =>
      rw [hpending r ho]
      nofun
  | handed =>
      cases ho
      nofun
  | refused => cases ho

/-- A result says that the push has failed just where it is that of an error. -/
theorem eq_failed_of_perform {r : PushResult} (hr : (p.perform id scheduled w).1 = .ok r)
    (hfailed : r.status = .failed) : ∃ e, r = .failed id e := by
  cases hqueueing : w.isQueueing scheduled with
  | true =>
      rw [perform_of_queueing hqueueing] at hr
      refine (eq_failed_of_report hr).resolve_left fun hqueue => ?_
      obtain ⟨o, v, hrun, hqueued⟩ := queue_queueing p id w
      rw [hrun] at hqueue
      exact hqueued.status_ne_failed hqueue hfailed
  | false =>
      obtain ⟨change, o, hcourse, hresult, -⟩ := perform_course p id hqueueing
      refine (eq_failed_of_report (hresult.symm.trans hr)).resolve_left ?_
      rintro rfl
      exact hcourse.status_ne_failed hfailed

end Pushing

/-! ## Items that are raised for -/

theorem hasNoCallbacks_newsroom : newsroom.HasNoCallbacks := ⟨rfl, rfl, rfl, rfl⟩

/-- An item whose title has a lone surrogate. -/
def itemWithSurrogate : Content :=
  { Content.blank "7" with title := .str [.surrogate 0], html := "<p>Text</p>" }

/-- An item with a picture whose address has a bracket without its partner. -/
def itemWithBracket : Content :=
  { Content.blank "1" with html := "<p>x</p><img src=\"http://[x\">" }

end PushSetup

end ArticleExport
