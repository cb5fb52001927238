import ArticleExport.Proofs.Push.Repetition

/-!
# What a push sends

A call that creates or updates an article sends a document, and bundles that go along with it.
Both come of one export of the item, under the settings of the push: the document is the valid
form of the article, and the bundles are those of its bundles that lie on the web.  Nothing is
sent of an export about which the user is told that it must not be published.

A first push of an item whose shipment can be written sends that shipment, so what is sent can be
computed.
-/

namespace ArticleExport

variable {σ : Type}

/-- The document and the bundles that a call sends, if it sends any. -/
def ServiceCall.sent? : ServiceCall → Option (Json × List Text)
  | create document _ bundles _ _ | update _ _ document bundles _ _ => some (document, bundles)
  | get _ _ | channel _ _ => none

theorem ServiceCall.sent?_of_created? {call : ServiceCall} (h : call.created?.isSome = true) :
    call.sent?.isSome = true := by
  cases call with
  | create => rfl
  | update => cases h
  | get => cases h
  | channel => cases h

/-- What a conversation sends is its shipment. -/
theorem Conversation.sent_eq
    {remote : RemoteState} {channel : Text} {s : Shipment} {calls : List ServiceCall}
    (h : Conversation remote channel s calls) {call : ServiceCall} (hcall : call ∈ calls)
    {sent : Json × List Text} (hsent : call.sent? = some sent) :
    sent = (.obj s.document, s.bundles) := by
  have hcalls : ∀ call ∈ calls,
      call.sent? = none ∨ call.sent? = some (.obj s.document, s.bundles) := by
    cases h <;> simp [ServiceCall.sent?, Shipment.creating, Shipment.updating]
  rcases hcalls call hcall with hnone | hsome
  · rw [hnone] at hsent
    cases hsent
  · exact Option.some.inj (hsent.symm.trans hsome)

namespace PushSetup

/-- How a document and bundles come of an item: the markup is read, the article is put together,
nothing in it forbids that it is published, and it makes a valid document. -/
structure Exports (p : PushSetup σ) (settings : Settings) (c : Content) (root : Node)
    (result : ExportResult) (document : Table Json) (bundles : List Text) : Prop where
  read : Node.parse c.html = .ok root
  assembled : (p.assembler settings).assemble root c.sections c.info = .ok result
  told : ∃ messages, alerts settings (result.issues.map ComponentIssue.component) = .ok messages
  valid : validateDocument (.ofJson (.obj result.article)) = .ok document
  cleaned : cleanBundles result.bundles = .ok bundles

theorem assembled_of_document
    {p : PushSetup σ} {settings : Settings} {c : Content} {document : Table Json}
    {result : ExportResult} {messages : List Text}
    (h : p.document settings c = .ok (document, result, messages)) :
    ∃ root, Node.parse c.html = .ok root ∧
      (p.assembler settings).assemble root c.sections c.info = .ok result ∧
      alerts settings (result.issues.map ComponentIssue.component) = .ok messages ∧
      validateDocument (.ofJson (.obj result.article)) = .ok document := by
  obtain ⟨r, hexported, htell⟩ := exceptBind_eq_ok h
  obtain ⟨told, htold, hvalidate⟩ := exceptBind_eq_ok htell
  obtain ⟨valid, hvalid, hdone⟩ := exceptBind_eq_ok hvalidate
  cases hdone
  obtain ⟨root, hread, hassembled⟩ := exceptBind_eq_ok hexported
  exact ⟨root, exceptMapError_eq_ok hread, hassembled, htold, exceptMapError_eq_ok hvalid⟩

theorem exports_of_shipmentOf
    {p : PushSetup σ} {settings : Settings} {c : Content} {s : Shipment}
    (h : p.shipmentOf settings c = .ok s) :
    ∃ root result, p.Exports settings c root result s.document s.bundles := by
  obtain ⟨⟨document, result, messages⟩, hdocument, hshipped⟩ := exceptBind_eq_ok h
  obtain ⟨root, hread, hassembled, htold, hvalid⟩ := assembled_of_document hdocument
  obtain ⟨cleaned, hcleaned, hpublish⟩ := exceptBind_eq_ok (exceptMapError_eq_ok hshipped)
  obtain ⟨metadata, -, hshipment⟩ := exceptBind_eq_ok hpublish
  cases hshipment
  exact ⟨root, result, hread, hassembled, ⟨messages, htold⟩, hvalid, hcleaned⟩

/-- What a push sends comes of its item. -/
theorem exports_of_sent
    (p : PushSetup σ) {id : Text} {scheduled : Bool} {w : World σ} {call : ServiceCall}
    (hcall : call ∈ p.calls id scheduled w) {sent : Json × List Text}
    (hsent : call.sent? = some sent) :
    ∃ c root result document bundles, w.content? id = some c ∧ sent = (.obj document, bundles) ∧
      p.Exports w.settings c root result document bundles := by
  cases hqueueing : w.isQueueing scheduled with
  | true =>
      rw [calls_of_queueing hqueueing] at hcall
      exact (List.not_mem_nil hcall).elim
  | false =>
      obtain ⟨change, o, hcourse, -, -⟩ := perform_course p id hqueueing
      rcases hcourse.converses with hsilent | ⟨c, s, hc, hs, hconversation⟩
      · rw [hsilent] at hcall
        exact (List.not_mem_nil hcall).elim
      · obtain ⟨root, result, hexports⟩ := exports_of_shipmentOf hs
        exact ⟨c, root, result, s.document, s.bundles, hc,
          hconversation.sent_eq hcall hsent, hexports⟩

/-! ## First pushes -/

/-- A first push of an item sends its shipment, if that can be written. -/
theorem exists_sent_of_isWritable
    {settings : Settings} {c : Content} {id : Text}
    (hqueueing : settings.apiAsync = false) (hconfigured : settings.isApiConfigured = true)
    (hid : c.id = .text id) (hverdict : newsroom.verdict settings c = .ok none)
    {space : Workspace} (hspace : Workspace.create [] id = .ok space) {s : Shipment}
    (hs : newsroom.shipmentOf settings c = .ok s) (hwritable : isWritable s = true) :
    ∃ call ∈ newsroom.calls id false (firstWorld settings c),
      call.sent? = some (.obj s.document, s.bundles) := by
  have hc : (firstWorld settings c).content? id = some c := by
    change KeyTable.get? (.text id) (ContentStore.ofList [c]) = some c
    rw [← hid]
    exact (KeyTable.get?_set c.id c.id c []).trans (if_pos rfl)
  have hpushing : (firstWorld settings c).isQueueing false = false := by
    change (settings.apiAsync && !false) = false
    rw [hqueueing]
    rfl
  obtain ⟨document, result, prepared, hprepared, rfl⟩ := exists_preparable_of_isWritable hs hwritable
  obtain ⟨r, hr, hcreated⟩ := perform_creates (p := newsroom) rfl hpushing
    ⟨rfl, hconfigured, c, hc, hverdict⟩ hc hspace hprepared rfl rfl rfl
  obtain ⟨change, o, hcourse, hresult, -⟩ := perform_course newsroom id hpushing
  have hlast := hcourse.tells.created.mp ⟨r, hresult.symm.trans hr, hcreated⟩
  obtain ⟨record, hrecord⟩ := Option.isSome_iff_exists.mp hlast
  obtain ⟨call, hcall, hcreates⟩ := Option.bind_eq_some_iff.mp hrecord
  have hmem := List.mem_of_getLast? hcall
  obtain ⟨sent, hsent⟩ := Option.isSome_iff_exists.mp
    (ServiceCall.sent?_of_created? (Option.isSome_iff_exists.mpr ⟨record, hcreates⟩))
  rcases hcourse.converses with hsilent | ⟨c', s', hc', hs', hconversation⟩
  · rw [hsilent] at hmem
    exact (List.not_mem_nil hmem).elim
  · obtain rfl := Option.some.inj (hc.symm.trans hc')
    obtain rfl := Except.ok.inj (hs.symm.trans hs')
    exact ⟨call, hmem, hsent.trans (congrArg some (hconversation.sent_eq hmem hsent))⟩

end PushSetup

end ArticleExport
