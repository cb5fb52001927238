import ArticleExport.Publish.Http
import Mathlib.Tactic.Common

/-!
# What a response is turned into

A response that reports a failure becomes an error of the service where its report can be looked
at.  `IsLegible` says when it can: the reports are a list or a text, and the first one, where it
is an object, has a path made of texts.  Anything else under the name of the reports ends the
request with a failure that is no error of the service.
-/

namespace ArticleExport

/-- The failure is an error of the publishing service. -/
def Failure.IsRemote (f : Failure) : Prop := ∃ e, f = .error (.remote e)

namespace HttpClient

variable {α : Type}

/-- A result, or an error of the service. -/
def IsAnswer (r : Except Failure α) : Prop := ∀ f, r = .error f → f.IsRemote

theorem isAnswer_ok (a : α) : IsAnswer (.ok a : Except Failure α) := nofun

theorem isAnswer_error_iff {f : Failure} : IsAnswer (.error f : Except Failure α) ↔ f.IsRemote := by
  constructor
  · intro h
    exact h f rfl
  · intro h g hg
    rwa [← Except.error.inj hg]

/-! ## Error reports -/

/-- The value is the path of an error report: one text, the names of an object, or a list of
texts. -/
def IsPath : Json → Prop
  | .str _ | .obj _ => True
  | .arr items => ∀ v ∈ items, ∃ t, v = .str t
  | _ => False

/-- The value can be looked at as error reports: a text, or a list whose first item is no
object or has a path, where it has any. -/
def IsReports : Json → Prop
  | .arr (.obj report :: _) =>
    ∀ path, Table.get? "keyPath" report = some path → path.isTruthy = true → IsPath path
  | .arr _ | .str _ => True
  | _ => False

/-- What a body reports can be looked at. -/
def IsLegible (body : Json) : Prop :=
  ∀ errors, body.field? "errors" = some errors → errors.isTruthy = true → IsReports errors

/-- A response reports a failure in a way that cannot be looked at. -/
def IsMisread (status : Int) (bytes : List UInt8) : Prop :=
  ¬(200 ≤ status ∧ status ≤ 299) ∧ ¬IsLegible ((Json.parseBytes? bytes).getD (.obj []))

theorem exists_textsFrom_iff (position : Nat) (items : List Json) :
    (∃ texts, textsFrom position items = .ok texts) ↔ ∀ v ∈ items, ∃ t, v = .str t := by
  induction items generalizing position with
  | nil => simp [textsFrom]
  | cons v items ih =>
      rw [List.forall_mem_cons, ← ih (position + 1)]
      cases v with
      | str t =>
          rw [textsFrom]
          cases textsFrom (position + 1) items with
          | error f => simp [Except.map]
          | ok texts => simp [Except.map]
      | _ => simp [textsFrom]

theorem keyPath_of_not_isTruthy {v : Json} (hv : v.isTruthy = false) : keyPath v = .ok [] := by
  simp [keyPath, hv]

theorem exists_keyPath_iff {v : Json} (hv : v.isTruthy = true) :
    (∃ path, keyPath v = .ok path) ↔ IsPath v := by
  cases v with
  | arr items =>
      rw [IsPath, ← exists_textsFrom_iff 0 items]
      simp only [keyPath, hv]
      cases textsFrom 0 items with
      | error f => simp [Except.mapError]
      | ok texts => simp [Except.mapError]
  | _ => simp [keyPath, hv, IsPath]

theorem eq_fault_of_keyPath {v : Json} {f : Failure} (h : keyPath v = .error f) :
    ∃ g, f = .fault g := by
  cases hv : v.isTruthy with
  | false =>
      rw [keyPath_of_not_isTruthy hv] at h
      cases h
  | true =>
      cases v with
      | arr items =>
          simp only [keyPath, hv] at h
          cases htexts : textsFrom 0 items with
          | error g =>
              rw [htexts] at h
              exact ⟨g, (Except.error.inj h).symm⟩
          | ok texts =>
              rw [htexts] at h
              cases h
      | str t => simp [keyPath, hv] at h
      | obj entries => simp [keyPath, hv] at h
      | _ =>
          simp only [keyPath, hv] at h
          exact ⟨_, (Except.error.inj h).symm⟩

/-- The path of an error report can be read where it is one, or counts as none. -/
theorem exists_keyPath_getD_iff (report : Table Json) :
    (∃ path, keyPath ((Table.get? "keyPath" report).getD .null) = .ok path) ↔
      ∀ path, Table.get? "keyPath" report = some path → path.isTruthy = true → IsPath path := by
  cases Table.get? "keyPath" report with
  | none => simp [keyPath, Json.isTruthy]
  | some v =>
      cases hv : v.isTruthy with
      | false => simp [keyPath_of_not_isTruthy hv, hv]
      | true => simp [exists_keyPath_iff hv, hv]

section Reports

variable {status : Int} {body : Json}

theorem isRemote_errorOf_of_none
    (h : firstReport? ((body.field? "errors").getD .null) = .ok none) :
    (errorOf status body).IsRemote := by
  rw [errorOf, h]
  exact ⟨_, rfl⟩

theorem not_isRemote_errorOf_of_error
    (h : ∃ f, firstReport? ((body.field? "errors").getD .null) = .error (.fault f)) :
    ¬(errorOf status body).IsRemote := by
  obtain ⟨f, hf⟩ := h
  rw [errorOf, hf]
  rintro ⟨e, he⟩
  cases he

theorem isRemote_errorOf_iff_of_report {report : Table Json}
    (h : firstReport? ((body.field? "errors").getD .null) = .ok (some report)) :
    (errorOf status body).IsRemote ↔
      ∀ path, Table.get? "keyPath" report = some path → path.isTruthy = true → IsPath path := by
  rw [errorOf, h, ← exists_keyPath_getD_iff]
  dsimp only
  cases hpath : keyPath ((Table.get? "keyPath" report).getD .null) with
  | error f =>
      obtain ⟨g, rfl⟩ := eq_fault_of_keyPath hpath
      simp [Failure.IsRemote]
  | ok path => simp [Failure.IsRemote]

end Reports

/-- The failure of a response is an error of the service exactly where what it reports can be
looked at. -/
theorem isRemote_errorOf_iff (status : Int) (body : Json) :
    (errorOf status body).IsRemote ↔ IsLegible body := by
  cases herrors : body.field? "errors" with
  | none =>
      have hnone : firstReport? ((body.field? "errors").getD .null) = .ok none := by
        rw [herrors]
        rfl
      simp [IsLegible, herrors, isRemote_errorOf_of_none hnone]
  | some errors =>
      have hreports : IsLegible body ↔ (errors.isTruthy = true → IsReports errors) := by
        simp [IsLegible, herrors]
      have hfirst : firstReport? ((body.field? "errors").getD .null) = firstReport? errors := by
        rw [herrors]
        rfl
      rw [hreports]
      cases htruthy : errors.isTruthy with
      | false =>
          have hnone : firstReport? errors = .ok none := by simp [firstReport?, htruthy]
          simp [isRemote_errorOf_of_none (hfirst.trans hnone)]
      | true =>
          simp only [forall_const]
          cases errors with
          | arr items =>
              cases items with
              | nil => cases htruthy
              | cons v rest =>
                  cases v with
                  | obj report => exact isRemote_errorOf_iff_of_report hfirst
                  | _ => exact iff_of_true (isRemote_errorOf_of_none hfirst) trivial
          | str t =>
              have hnone : firstReport? (.str t) = .ok none := by simp [firstReport?, htruthy]
              exact iff_of_true (isRemote_errorOf_of_none (hfirst.trans hnone)) trivial
          | _ =>
              have hfault : ∃ f, firstReport? ((body.field? "errors").getD .null) =
                  .error (.fault f) := by
                rw [hfirst]
                simp [firstReport?, htruthy]
              exact iff_of_false (not_isRemote_errorOf_of_error hfault) id

theorem isAnswer_readResponse_iff (status : Int) (bytes : List UInt8) :
    IsAnswer (readResponse status bytes) ↔ ¬IsMisread status bytes := by
  rw [IsMisread, readResponse]
  by_cases hstatus : 200 ≤ status ∧ status ≤ 299
  · rw [if_pos hstatus]
    refine iff_of_true ?_ fun h => h.1 hstatus
    split
    · split
      · exact isAnswer_ok _
      · exact isAnswer_ok _
    · exact isAnswer_ok _
  · rw [if_neg hstatus, isAnswer_error_iff, isRemote_errorOf_iff]
    simp [hstatus]

/-! ## No failure of the network -/

theorem eq_fault_of_firstReport? {errors : Json} {f : Failure}
    (h : firstReport? errors = .error f) : ∃ g, f = .fault g := by
  unfold firstReport? at h
  split at h
  · cases h
  · split at h
    · cases h
    · cases h
    · cases h
    · exact ⟨_, (Except.error.inj h).symm⟩
    · exact ⟨_, (Except.error.inj h).symm⟩

theorem status_of_eq_networkError {e : RemoteError} {wording : Text}
    (h : Failure.error (.remote e) = networkError wording) : e.status = none := by
  injection h with h
  injection h with h
  rw [h]
  rfl

/-- A response that reports a failure stands for none of the network: what it becomes carries
the status, or is no error of the service. -/
theorem errorOf_ne_networkError (status : Int) (body : Json) (wording : Text) :
    errorOf status body ≠ networkError wording := by
  rw [errorOf]
  cases hreport : firstReport? ((body.field? "errors").getD .null) with
  | error f =>
      obtain ⟨g, rfl⟩ := eq_fault_of_firstReport? hreport
      nofun
  | ok report =>
      cases report with
      | none =>
          intro h
          cases status_of_eq_networkError h
      | some report =>
          dsimp only
          cases hpath : keyPath ((Table.get? "keyPath" report).getD .null) with
          | error f =>
              obtain ⟨g, rfl⟩ := eq_fault_of_keyPath hpath
              nofun
          | ok path =>
              intro h
              cases status_of_eq_networkError h

theorem readResponse_ne_networkError (status : Int) (bytes : List UInt8) (wording : Text) :
    readResponse status bytes ≠ .error (networkError wording) := by
  rw [readResponse]
  split
  · split
    · split
      · nofun
      · nofun
    · nofun
  · intro h
    exact errorOf_ne_networkError _ _ _ (Except.error.inj h)

end HttpClient

end ArticleExport
