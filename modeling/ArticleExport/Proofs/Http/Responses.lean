import ArticleExport.Proofs.Http.Retries

/-!
# Results and errors of the service

A request is tried while there is no connection, and one exchange decides what comes of it:
`ending` finds it among those that are to come.  What is asked of the service yields a result or
an error of the service, unless the deciding response reports a failure that cannot be looked at
or a pause between two tries cannot be kept.  `isAnswer_api_iff` says so for the four things that
can be asked of the service.
-/

namespace ArticleExport

namespace HttpClient

variable {c : HttpClient} {w : Wire}

/-- The exchange that decides what comes of a request that can be tried so many times; there
is none where it cannot be tried at all. -/
def ending : Nat → List Exchange → Option Exchange
  | 0, _ => none
  | _ + 1, [] => some (.response Wire.silentStatus [])
  | left + 1, .unreachable wording :: coming =>
    if left = 0 then some (.unreachable wording) else ending left coming
  | _ + 1, x :: _ => some x

theorem ending_eq (left : Nat) (w : Wire) :
    ending (left + 1) w.coming = some (w.upcoming (min w.contact (left + 1) - 1)) := by
  obtain ⟨coming, sent, waits⟩ := w
  simp only [Wire.upcoming, Wire.contact]
  induction coming generalizing left with
  | nil => simp [ending]
  | cons x coming ih =>
      cases x with
      | response status bytes => simp [ending, List.findIdx_cons, Exchange.isUnreachable]
      | broken wording => simp [ending, List.findIdx_cons, Exchange.isUnreachable]
      | unreachable wording =>
          rw [ending]
          cases left with
          | zero => simp
          | succ left =>
              rw [if_neg (Nat.succ_ne_zero left), ih]
              simp [List.findIdx_cons, Exchange.isUnreachable]

/-- A request whose pauses can be kept has the outcome of the exchange that decides, and one
that falters ends in the failure of a pause. -/
theorem try_snd (c : HttpClient) (r : Request) (w : Wire) :
    (¬c.Falters w → (c.try_ r 0 c.attempts w).2 = outcome r (ending c.attempts w.coming)) ∧
      (c.Falters w → ∃ f, (c.try_ r 0 c.attempts w).2 = .error (.fault f)) := by
  rcases Nat.eq_zero_or_pos c.attempts with hzero | hpos
  · have hfalters : ¬c.Falters w := by
      rintro ⟨i, f, hi, -⟩
      rw [tries, hzero] at hi
      omega
    refine ⟨fun _ => ?_, fun h => absurd h hfalters⟩
    rw [hzero]
    rfl
  · rcases c.pauses_cases w hpos with
      ⟨hfalters, pauses, hkeeps, hlength⟩ | ⟨hfalters, pauses, f, hkeeps, hlength, hf⟩
    · refine ⟨fun _ => ?_, fun h => absurd h hfalters⟩
      obtain ⟨left, hleft⟩ := Nat.exists_eq_add_of_lt hpos
      rw [try_of_keeps hkeeps hlength, tries, hleft, Nat.zero_add, ending_eq]
    · refine ⟨fun h => absurd hfalters h, fun _ => ⟨f, ?_⟩⟩
      rw [try_of_error hkeeps hf hlength]

/-- A request to the path can be sent: its address is that of a host, and its body has a byte
form. -/
def CanSend (c : HttpClient) (path : Text) (body : Option Json) : Prop :=
  ∃ target, Target.read (c.base ++ path) = .ok target ∧ target.isAbsolute = true ∧
    body.bind bodyFault? = none

/-- The exchange that decides the next request is a response that cannot be looked at. -/
def Misreads (c : HttpClient) (w : Wire) : Prop :=
  ∃ status bytes, ending c.attempts w.coming = some (.response status bytes) ∧
    IsMisread status bytes

theorem isAnswer_outcome_iff {r : Request} (h : r.target.isAbsolute = true) (x : Option Exchange) :
    IsAnswer (outcome r x) ↔
      ¬∃ status bytes, x = some (.response status bytes) ∧ IsMisread status bytes := by
  have hnetwork : ∀ wording : Text,
      IsAnswer (.error (networkError wording) : Except Failure (Table Json)) := by
    intro wording
    exact isAnswer_error_iff.mpr ⟨_, rfl⟩
  cases x with
  | none => exact iff_of_true (hnetwork _) (by simp)
  | some x =>
      cases x with
      | response status bytes =>
          rw [outcome, if_pos h, isAnswer_readResponse_iff]
          simp
      | broken wording => exact iff_of_true (hnetwork _) (by simp)
      | unreachable wording => exact iff_of_true (hnetwork _) (by simp)

theorem exists_request_eq_outcome {path : Text} {body : Option Json} (h : c.CanSend path body)
    (method : Text) (w : Wire) :
    ∃ r : Request, r.target.isAbsolute = true ∧
      (¬c.Falters w →
        (c.request method path body w).2 = outcome r (ending c.attempts w.coming)) ∧
      (c.Falters w → ∃ f, (c.request method path body w).2 = .error (.fault f)) := by
  obtain ⟨target, htarget, habsolute, hbody⟩ := h
  refine ⟨⟨method, c.base ++ path, target, body⟩, habsolute, ?_⟩
  rw [request, htarget, hbody]
  exact c.try_snd _ w

theorem isAnswer_request_iff {method path : Text} {body : Option Json} (h : c.CanSend path body) :
    IsAnswer (c.request method path body w).2 ↔ ¬c.Misreads w ∧ ¬c.Falters w := by
  obtain ⟨r, habsolute, hsteady, hfault⟩ := exists_request_eq_outcome h method w
  by_cases hfalters : c.Falters w
  · obtain ⟨f, hf⟩ := hfault hfalters
    rw [hf, isAnswer_error_iff]
    refine iff_of_false ?_ fun h => h.2 hfalters
    rintro ⟨e, he⟩
    cases he
  · rw [hsteady hfalters, isAnswer_outcome_iff habsolute, and_iff_left hfalters]
    rfl

theorem record_snd_of_error {r : Wire × Except Failure (Table Json)} {f : Failure}
    (h : r.2 = .error f) : (record r).2 = .error f := by
  rw [record, h]
  rfl

/-- Reading the record of an article adds no failure that is not an error of the service. -/
theorem isAnswer_record_iff (r : Wire × Except Failure (Table Json)) :
    IsAnswer (record r).2 ↔ IsAnswer r.2 := by
  obtain ⟨w, f | data⟩ := r
  · exact isAnswer_error_iff.trans isAnswer_error_iff.symm
  · refine iff_of_true ?_ (isAnswer_ok data)
    change IsAnswer ((ArticleRecord.ofJson data).mapError unexpectedData)
    cases ArticleRecord.ofJson data with
    | error issues => exact isAnswer_error_iff.mpr ⟨_, rfl⟩
    | ok found => exact isAnswer_ok found

theorem isAnswer_send_iff {path : Text} {document : Json} {bundles : List Text}
    {metadata : Table Json} {more : KeyTable Json} {body : Json}
    (hbody : payload document bundles metadata more = .ok body) (h : c.CanSend path (some body)) :
    IsAnswer (c.send path document bundles metadata more w).2 ↔
      ¬c.Misreads w ∧ ¬c.Falters w := by
  rw [send, hbody]
  exact (isAnswer_record_iff _).trans (isAnswer_request_iff h)

/-- The bytes of a body that holds a value. -/
def bodyOf (v : Json) : List UInt8 := (Utf8.encode? (Json.print .compact v)).getD []

/-- A client of a service that can be addressed. -/
def newsClient : HttpClient := standard "https://news.example.com"

/-- The report of an article that does not exist. -/
def missingReport : Json :=
  .obj [("errors", .arr [.obj [
    ("code", .str "NOT_FOUND"), ("keyPath", .arr [.str "articleId"])]])]

/-- No connection at first, and then a report. -/
def lateReport : Wire := ⟨[.unreachable "down", .response 404 (bodyOf missingReport)], [], []⟩

theorem not_misreads_lateReport : ¬newsClient.Misreads lateReport := by
  rintro ⟨status, bytes, hending, -, hlegible⟩
  obtain ⟨-, rfl⟩ := Exchange.response.inj (Option.some.inj hending)
  have hparsed : Json.parseBytes? (bodyOf missingReport) = some missingReport := by
    decide +kernel
  rw [hparsed] at hlegible
  refine hlegible ?_
  intro errors herrors _
  obtain rfl := Option.some.inj herrors
  intro path hpath _
  obtain rfl := Option.some.inj hpath
  exact List.forall_mem_singleton.mpr ⟨_, rfl⟩

theorem not_falters_lateReport : ¬newsClient.Falters lateReport := by
  rintro ⟨i, f, hi, hf⟩
  have htries : newsClient.tries lateReport = 2 := by decide
  rw [htries] at hi
  obtain rfl : i = 0 := by omega
  have hfactor : floatOfInt? (2 ^ 0 : Nat) = some 1.0 := by decide +kernel
  rw [pause_of_real rfl, hfactor] at hf
  cases hf

/-- A report that is not in a list. -/
def looseReport : Json := .obj [("errors", .obj [("code", .str "X")])]

theorem readResponse_looseReport :
    readResponse 400 (bodyOf looseReport) = .error (.fault .missingEntry) := by
  have hparsed : Json.parseBytes? (bodyOf looseReport) = some looseReport := by decide +kernel
  rw [readResponse, hparsed]
  rfl

end HttpClient

end ArticleExport
