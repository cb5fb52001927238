import ArticleExport.Proofs.Push.Runs

/-!
# What is prepared for a push

Whether an item is skipped, and what is sent for it, depends on the settings, the
item and the functions of the host, and on nothing else in the world.
`PushSetup.verdict` and `PushSetup.shipmentOf` say so by their types; the runs
that find them out agree with them.
-/

namespace ArticleExport

variable {σ : Type}

theorem SyncCheck.ofExport_eq_ok
    {id : Text} {stored : Option Text} {document : Json} {metadata : Table Json}
    {bundles : List Text} {check : SyncCheck}
    (h : SyncCheck.ofExport id stored document metadata bundles = .ok check) :
    check.stored = stored ∧
      ArticleExport.fingerprint document metadata bundles = .ok check.fingerprint := by
  rw [SyncCheck.ofExport] at h
  cases hfresh : ArticleExport.fingerprint document metadata bundles with
  | error f => rw [hfresh] at h; cases h
  | ok fresh => rw [hfresh] at h; cases h; exact ⟨rfl, rfl⟩

namespace PushSetup

variable (p : PushSetup σ)

/-- What the host says to skipping a content item. -/
def hostVerdict (c : Content) : Except Failure Bool :=
  match p.shouldSkip with
  | none => .ok false
  | some veto =>
    match p.failures.veto c.id with
    | some f => .error f
    | none => .ok (veto c.id)

/-- Whether and why a content item is skipped, or what keeps it from being told.
-/
def verdict (settings : Settings) (c : Content) : Except Failure (Option Text) :=
  match p.hostVerdict c with
  | .error f => .error f
  | .ok true => .ok (some (PushWording.vetoed c.label))
  | .ok false =>
    match hasSkipTerm settings c with
    | .error f => .error (.fault f)
    | .ok true => .ok (some (PushWording.skipTerm c.label))
    | .ok false => .ok none

/-- What is to be sent for a content item. -/
def shipmentOf (settings : Settings) (c : Content) : Except Failure Shipment := do
  let exported ← p.document settings c
  (p.shipment settings c exported.1 exported.2.1.bundles).mapError .fault

/-- What is prepared for a content item is what is to be sent for it, together
with the fingerprint of that and the one that is stored. -/
structure Prepares (w : World σ) (c : Content) (prepared : Prepared) : Prop where
  shipment : p.shipmentOf w.settings c = .ok prepared.shipment
  stored : prepared.check.stored = (w.state.checksum c.label).text?
  fingerprint : ArticleExport.fingerprint (.obj prepared.shipment.document)
    prepared.shipment.metadata prepared.shipment.bundles = .ok prepared.check.fingerprint

theorem askHost_apply (c : Content) (w : World σ) :
    (p.askHost c w).1 = p.hostVerdict c := by
  rw [askHost, hostVerdict]
  cases p.shouldSkip with
  | none => rfl
  | some veto =>
      dsimp only
      rw [Run.bind_of_ok (Run.modify_apply _ w)]
      cases p.failures.veto c.id <;> rfl

theorem skipReason_verdict (c : Content) (w : World σ) :
    (p.skipReason c w).1 = p.verdict w.settings c := by
  rw [skipReason, verdict, ← p.askHost_apply c w]
  rcases hasked : p.askHost c w with ⟨f | vetoed, v⟩
  · rw [Run.bind_of_error hasked]
  · rw [Run.bind_of_ok hasked]
    cases vetoed with
    | true => rfl
    | false =>
        rw [if_neg Bool.false_ne_true, Run.bind_of_ok (Run.get_apply v)]
        dsimp only
        rw [((p.quiet_askHost c).of_eq hasked).settings]
        cases hterm : hasSkipTerm w.settings c with
        | error f => rfl
        | ok isTerm => cases isTerm <;> rfl

theorem prepare_prepares
    {room : Text} {c : Content} {w v : World σ} {prepared : Prepared}
    (h : p.prepare room c w = (.ok prepared, v)) : p.Prepares w c prepared := by
  rw [prepare, Run.bind_of_ok (Run.get_apply w)] at h
  obtain ⟨⟨document, result, messages⟩, w₁, hexported, hwrite⟩ := Run.bind_eq_ok h
  obtain ⟨hdocument, rfl⟩ := Run.ofExcept_eq_ok hexported
  obtain ⟨_, w₂, hwritten, hship⟩ := Run.bind_eq_ok hwrite
  obtain ⟨shipment, w₃, hshipped, hfilter⟩ := Run.bind_eq_ok hship
  obtain ⟨hshipment, rfl⟩ := Run.ofFault_eq_ok hshipped
  obtain ⟨_, w₄, hfiltered, hreach⟩ := Run.bind_eq_ok hfilter
  obtain ⟨_, w₅, hreached, hread⟩ := Run.bind_eq_ok hreach
  rw [Run.bind_of_ok (Run.get_apply w₅)] at hread
  obtain ⟨check, w₆, hchecked, hdone⟩ := Run.bind_eq_ok hread
  obtain ⟨hcheck, rfl⟩ := Run.ofFault_eq_ok hchecked
  obtain ⟨hstored, hfingerprint⟩ := SyncCheck.ofExport_eq_ok hcheck
  cases hdone
  -- the checksum was read behind steps that leave the state alone
  have hquiet : w₁.SameRecords v :=
    (((quiet_writeDocument room document).of_eq hwritten).trans
      ((Run.quiet_failing _).of_eq hfiltered)).trans ((Run.quiet_reach _).of_eq hreached)
  refine ⟨?_, ?_, hfingerprint⟩
  · rw [shipmentOf, hdocument]
    change (p.shipment w₁.settings c document result.bundles).mapError Failure.fault = _
    rw [hshipment]
    rfl
  · rw [hstored, hquiet.state]

end PushSetup

end ArticleExport
