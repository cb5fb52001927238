import ArticleExport.Proofs.Http.Reports
import Mathlib.Algebra.Group.Nat.Defs
import Mathlib.Data.List.Basic
import Mathlib.Data.List.GetD
import Mathlib.Data.List.Induction
import Mathlib.Data.Option.Basic

/-!
# Requests that are tried again

A request is tried until something other than a lack of connection comes of it, or until it
has been tried as often as the client tries.  Between two tries there is a pause, and the
pauses double.  `HttpClient.tries` is the number of tries in terms of what is to come, and
`try_of_keeps` says what a request has done when it has ended.

A pause is computed and announced before it is kept, and either can fail: a factor that no
floating-point number reaches cannot be multiplied with a fraction, and a whole number with
too many digits cannot be written.  A client `Falters` where that happens to one of the
pauses that are due.  The request ends there, with connection failures only.
-/

namespace ArticleExport

/-- The exchange is a lack of connection. -/
def Exchange.isUnreachable : Exchange → Bool
  | .unreachable _ => true
  | _ => false

theorem Exchange.eq_unreachable {x : Exchange} (h : x.isUnreachable = true) :
    ∃ wording, x = .unreachable wording := by
  cases x with
  | unreachable wording => exact ⟨wording, rfl⟩
  | response status body => cases h
  | broken wording => cases h

namespace Wire

variable {w : Wire} {r : Request} {i n : Nat} {pauses : List Seconds}

/-- What will come of a request that so many others precede.  A service of which nothing is
known responds, and says nothing. -/
def upcoming (w : Wire) (i : Nat) : Exchange := w.coming.getD i (.response silentStatus [])

/-- The place, counted from one, of the first exchange to come that is no lack of connection. -/
def contact (w : Wire) : Nat := w.coming.findIdx (fun x => !x.isUnreachable) + 1

/-- The way after some tries of a request, with pauses. -/
def after (w : Wire) (r : Request) (tries : Nat) (pauses : List Seconds) : Wire :=
  ⟨w.coming.drop tries, w.sent ++ List.replicate tries r, w.waits ++ pauses⟩

theorem after_zero (w : Wire) (r : Request) : w.after r 0 [] = w := by
  simp [after]

theorem upcoming_after (w : Wire) (r : Request) (n : Nat) (pauses : List Seconds) (i : Nat) :
    (w.after r n pauses).upcoming i = w.upcoming (n + i) := by
  simp [after, upcoming]

theorem after_after (w : Wire) (r : Request) (n : Nat) (pauses : List Seconds) (m : Nat)
    (others : List Seconds) :
    (w.after r n pauses).after r m others = w.after r (n + m) (pauses ++ others) := by
  simp [after]

theorem send_eq (w : Wire) (r : Request) : w.send r = (w.upcoming 0, w.after r 1 []) := by
  obtain ⟨coming, sent, waits⟩ := w
  cases coming with
  | nil => simp [send, upcoming, after]
  | cons x coming => simp [send, upcoming, after]

theorem isUnreachable_upcoming (h : i + 1 < w.contact) : (w.upcoming i).isUnreachable = true := by
  have hi : i < w.coming.findIdx fun x => !x.isUnreachable := by
    rw [contact] at h
    omega
  have hlength : i < w.coming.length := Nat.lt_of_lt_of_le hi List.findIdx_le_length
  have hlack := List.not_of_lt_findIdx hi
  rw [upcoming, List.getD_eq_getElem _ _ hlength]
  simpa using hlack

theorem isUnreachable_upcoming_contact (w : Wire) :
    (w.upcoming (w.contact - 1)).isUnreachable = false := by
  rw [contact, Nat.add_sub_cancel, upcoming]
  by_cases hfound : w.coming.findIdx (fun x => !x.isUnreachable) < w.coming.length
  · rw [List.getD_eq_getElem _ _ hfound]
    have hcontact := List.findIdx_getElem (w := hfound)
    simpa using hcontact
  · rw [List.getD_eq_default _ _ (Nat.le_of_not_lt hfound)]
    rfl

end Wire

namespace HttpClient

variable {α : Type} {c : HttpClient} {r : Request} {w : Wire} {pauses : List Seconds}

/-- How often the next request is tried. -/
def tries (c : HttpClient) (w : Wire) : Nat := min w.contact c.attempts

/-- These are the first pauses of the client. -/
def Keeps (c : HttpClient) (pauses : List Seconds) : Prop :=
  ∀ i (h : i < pauses.length), c.pause i = .ok pauses[i]

/-- One of the pauses that are due between the tries of the next request cannot be kept. -/
def Falters (c : HttpClient) (w : Wire) : Prop :=
  ∃ i f, i + 1 < c.tries w ∧ c.pause i = .error f

theorem keeps_nil (c : HttpClient) : c.Keeps [] := by
  intro i h
  cases h

theorem Keeps.concat (h : c.Keeps pauses) {s : Seconds} (hs : c.pause pauses.length = .ok s) :
    c.Keeps (pauses ++ [s]) := by
  intro i hi
  rw [List.length_append, List.length_singleton] at hi
  by_cases hlast : i = pauses.length
  · subst hlast
    rw [hs, List.getElem_concat_length rfl]
  · have hi' : i < pauses.length := by omega
    rw [h i hi', List.getElem_append_left hi']

/-- Pauses are kept as they are due, or one of them is the first that cannot be kept. -/
theorem exists_keeps (c : HttpClient) (n : Nat) :
    (∃ pauses, c.Keeps pauses ∧ pauses.length = n) ∨
      ∃ pauses f, c.Keeps pauses ∧ pauses.length < n ∧ c.pause pauses.length = .error f := by
  induction n with
  | zero => exact .inl ⟨[], c.keeps_nil, rfl⟩
  | succ n ih =>
      rcases ih with ⟨pauses, hkeeps, rfl⟩ | ⟨pauses, f, hkeeps, hlt, hf⟩
      · cases hnext : c.pause pauses.length with
        | ok s => exact .inl ⟨pauses ++ [s], hkeeps.concat hnext, by simp⟩
        | error f => exact .inr ⟨pauses, f, hkeeps, Nat.lt_succ_self _, hnext⟩
      · exact .inr ⟨pauses, f, hkeeps, Nat.lt_succ_of_lt hlt, hf⟩

/-- A pause with a fraction can be kept where its factor is a floating-point number. -/
theorem pause_of_real {x : Float} (h : c.delay = .real x) (i : Nat) :
    c.pause i = match floatOfInt? (2 ^ i : Nat) with
      | none => .error .oversizedNumber
      | some y => .ok (.real (x * y)) := by
  have hpow : Nat.pow 2 i = 2 ^ i := rfl
  rw [pause, h, hpow, Seconds.times?]
  cases floatOfInt? (2 ^ i : Nat) with
  | none => rfl
  | some y => rfl

/-- A whole pause can be kept where it has few digits. -/
theorem pause_of_whole {n : Int} (h : c.delay = .whole n) (i : Nat) :
    c.pause i = if hasFewDigits (n * (2 ^ i : Nat)).natAbs = true
      then .ok (.whole (n * (2 ^ i : Nat))) else .error .unwritableNumber := by
  have hpow : Nat.pow 2 i = 2 ^ i := rfl
  rw [pause, h, hpow]
  rfl

/-- A pause that is kept is the delay, doubled as often as there were tries before. -/
theorem times?_of_pause {i : Nat} {s : Seconds} (h : c.pause i = .ok s) :
    c.delay.times? (2 ^ i) = some s := by
  have hpow : Nat.pow 2 i = 2 ^ i := rfl
  rw [pause, hpow] at h
  cases htimes : c.delay.times? (2 ^ i) with
  | none =>
      rw [htimes] at h
      cases h
  | some t =>
      rw [htimes] at h
      dsimp only at h
      split at h
      · rw [Except.ok.inj h]
      · cases h

theorem Keeps.map_some (h : c.Keeps pauses) :
    pauses.map some = (List.range pauses.length).map fun i => c.delay.times? (2 ^ i) := by
  refine List.ext_getElem (by simp) ?_
  intro i hi _
  rw [List.length_map] at hi
  simp [times?_of_pause (h i hi)]

theorem isUnreachable_of_lt_tries {i : Nat} (h : i + 1 < c.tries w) :
    (w.upcoming i).isUnreachable = true :=
  Wire.isUnreachable_upcoming (Nat.lt_of_lt_of_le h (Nat.min_le_left _ _))

/-! ## The loop -/

/-- What the deciding exchange is turned into. -/
def outcome (r : Request) : Option Exchange → Except Failure (Table Json)
  | none => .error (networkError "Max retries exceeded")
  | some (.response status bytes) =>
    if r.target.isAbsolute then readResponse status bytes else .error (.fault (unreadable r))
  | some (.broken wording) =>
    .error (networkError (r.method ++ (" " : Text) ++ r.address ++ (" failed: " : Text) ++ wording))
  | some (.unreachable wording) =>
    .error (networkError
      (("Failed to connect to " : Text) ++ r.address ++ (": " : Text) ++ wording))

/-- A try that finds no connection, with another one left. -/
theorem try_of_unreachable {wording : Text} (h : w.upcoming 0 = .unreachable wording)
    (before left : Nat) :
    c.try_ r before (left + 2) w =
      match c.pause before with
      | .error f => (w.after r 1 [], .error (.fault f))
      | .ok s => c.try_ r (before + 1) (left + 1) (w.after r 1 [s]) := by
  rw [try_, Wire.send_eq, h]
  dsimp only
  rw [if_neg (Nat.succ_ne_zero left)]
  cases c.pause before with
  | error f => rfl
  | ok s =>
      have hwait : (w.after r 1 []).wait s = w.after r 1 [s] := by
        simp [Wire.after, Wire.wait]
      dsimp only
      rw [hwait]

/-- The last try, after which there is none left or something other than a lack of connection
has come. -/
theorem try_of_last {left : Nat} (h : left = 0 ∨ (w.upcoming 0).isUnreachable = false)
    (before : Nat) :
    c.try_ r before (left + 1) w = (w.after r 1 [], outcome r (some (w.upcoming 0))) := by
  rw [try_, Wire.send_eq]
  cases hcomes : w.upcoming 0 with
  | response status body => rfl
  | broken wording => rfl
  | unreachable wording =>
      rcases h with rfl | h
      · rfl
      · rw [hcomes] at h
        cases h

/-- The tries that find no connection come one after the other, with the pauses between them. -/
theorem try_after (hkeeps : c.Keeps pauses) {left : Nat}
    (hlack : ∀ i < pauses.length, (w.upcoming i).isUnreachable = true) :
    c.try_ r 0 (pauses.length + (left + 1)) w =
      c.try_ r pauses.length (left + 1) (w.after r pauses.length pauses) := by
  induction pauses using List.reverseRecOn generalizing left with
  | nil =>
      rw [List.length_nil, Wire.after_zero, Nat.zero_add]
  | append_singleton pauses s ih =>
      rw [List.length_append, List.length_singleton] at hlack ⊢
      have hkeeps' : c.Keeps pauses := by
        intro i hi
        have hi' : i < (pauses ++ [s]).length := by
          rw [List.length_append]
          omega
        rw [hkeeps i hi', List.getElem_append_left hi]
      have hpause : c.pause pauses.length = .ok s := by
        have hlast : pauses.length < (pauses ++ [s]).length := by simp
        rw [hkeeps pauses.length hlast, List.getElem_concat_length rfl]
      obtain ⟨wording, hwording⟩ := Exchange.eq_unreachable
        (hlack pauses.length (Nat.lt_succ_self _))
      have hnext : (w.after r pauses.length pauses).upcoming 0 = .unreachable wording := by
        rw [Wire.upcoming_after, Nat.add_zero, hwording]
      have hleft : pauses.length + 1 + (left + 1) = pauses.length + (left + 1 + 1) := by omega
      rw [hleft, ih hkeeps' fun i hi => hlack i (Nat.lt_succ_of_lt hi),
        try_of_unreachable hnext, hpause]
      dsimp only
      rw [Wire.after_after]

/-- A request whose pauses can be kept is tried as often as is due, and what comes of the last
try decides. -/
theorem try_of_keeps (hkeeps : c.Keeps pauses) (hlength : pauses.length + 1 = c.tries w) :
    c.try_ r 0 c.attempts w =
      (w.after r (c.tries w) pauses, outcome r (some (w.upcoming (c.tries w - 1)))) := by
  have hlack : ∀ i < pauses.length, (w.upcoming i).isUnreachable = true := by
    intro i hi
    exact isUnreachable_of_lt_tries (c := c) (by omega)
  obtain ⟨left, hleft⟩ : ∃ left, c.attempts = pauses.length + (left + 1) := by
    have hle : c.tries w ≤ c.attempts := Nat.min_le_right _ _
    exact ⟨c.attempts - c.tries w, by omega⟩
  have hlast : left = 0 ∨
      ((w.after r pauses.length pauses).upcoming 0).isUnreachable = false := by
    rcases Nat.le_total w.contact c.attempts with hcontact | hattempts
    · -- the connection decides, and it is there at the last try
      have htries : c.tries w = w.contact := Nat.min_eq_left hcontact
      have hplace : pauses.length = w.contact - 1 := by omega
      refine .inr ?_
      rw [Wire.upcoming_after, Nat.add_zero, hplace]
      exact w.isUnreachable_upcoming_contact
    · have htries : c.tries w = c.attempts := Nat.min_eq_right hattempts
      exact .inl (by omega)
  have hdone : pauses.length = c.tries w - 1 := by omega
  rw [hleft, try_after hkeeps hlack, try_of_last hlast, Wire.after_after, Wire.upcoming_after,
    List.append_nil, hlength, Nat.add_zero, hdone]

/-- A request ends with the first pause that cannot be kept. -/
theorem try_of_error (hkeeps : c.Keeps pauses) {f : Fault}
    (hf : c.pause pauses.length = .error f) (hlength : pauses.length + 1 < c.tries w) :
    c.try_ r 0 c.attempts w = (w.after r (pauses.length + 1) pauses, .error (.fault f)) := by
  have hlack : ∀ i < pauses.length + 1, (w.upcoming i).isUnreachable = true := by
    intro i hi
    exact isUnreachable_of_lt_tries (c := c) (by omega)
  obtain ⟨left, hleft⟩ : ∃ left, c.attempts = pauses.length + (left + 1 + 1) := by
    have hle : c.tries w ≤ c.attempts := Nat.min_le_right _ _
    exact ⟨c.attempts - pauses.length - 2, by omega⟩
  obtain ⟨wording, hwording⟩ := Exchange.eq_unreachable (hlack _ (Nat.lt_succ_self _))
  have hnext : (w.after r pauses.length pauses).upcoming 0 = .unreachable wording := by
    rw [Wire.upcoming_after, Nat.add_zero, hwording]
  rw [hleft, try_after hkeeps fun i hi => hlack i (Nat.lt_succ_of_lt hi),
    try_of_unreachable hnext, hf]
  dsimp only
  rw [Wire.after_after, List.append_nil]

/-- The pauses that are due can all be kept, or there is the first that cannot. -/
theorem pauses_cases (c : HttpClient) (w : Wire) (h : 0 < c.attempts) :
    (¬c.Falters w ∧ ∃ pauses, c.Keeps pauses ∧ pauses.length + 1 = c.tries w) ∨
      (c.Falters w ∧ ∃ pauses f, c.Keeps pauses ∧ pauses.length + 1 < c.tries w ∧
        c.pause pauses.length = .error f) := by
  have htries : 0 < c.tries w := Nat.lt_min.mpr ⟨Nat.succ_pos _, h⟩
  rcases c.exists_keeps (c.tries w - 1) with
    ⟨pauses, hkeeps, hlength⟩ | ⟨pauses, f, hkeeps, hlt, hf⟩
  · refine .inl ⟨?_, pauses, hkeeps, by omega⟩
    rintro ⟨i, f, hi, hf⟩
    rw [hkeeps i (by omega)] at hf
    cases hf
  · exact .inr ⟨⟨_, f, by omega, hf⟩, pauses, f, hkeeps, by omega, hf⟩

/-! ## The things that can be asked of the service -/

/-- The failure of a request that has been tried as often as it can without being tried. -/
def exhausted : Failure := networkError "Max retries exceeded"

theorem networkError_inj {wording other : Text} (h : networkError wording = networkError other) :
    wording = other := by
  injection h with h
  injection h with h
  exact Option.some.inj (congrArg RemoteError.wording h)

theorem outcome_ne_exhausted {r : Request} (h : r.method = "GET" ∨ r.method = "POST")
    (x : Exchange) : outcome r (some x) ≠ .error exhausted := by
  cases x with
  | response status bytes =>
      rw [outcome]
      split
      · exact readResponse_ne_networkError _ _ _
      · nofun
  | broken wording =>
      intro heq
      have hwording := networkError_inj (Except.error.inj heq)
      rcases h with h | h
      · rw [h] at hwording
        exact absurd (List.cons.inj hwording).1 (by decide)
      · rw [h] at hwording
        exact absurd (List.cons.inj hwording).1 (by decide)
  | unreachable wording =>
      intro heq
      have hwording := networkError_inj (Except.error.inj heq)
      exact absurd (List.cons.inj hwording).1 (by decide)

/-- A request to the path of a service can be tried: its address can be read, and its body has
a byte form. -/
def IsSendable (base path : Text) (body : Option Json) : Prop :=
  ∃ target, Target.read ((standard base).base ++ path) = .ok target ∧ body.bind bodyFault? = none

/-- A call has tried its request as often as is due: it has gone on only after a lack of
connection, the pauses between the tries are the delay and its doubles, and what came of the
last try decides. -/
structure Persists (c : HttpClient) (r : Request) (answer : Exchange → Except Failure α)
    (w : Wire) (done : Wire × Except Failure α) : Prop where
  lacks : ∀ i, i + 1 < c.tries w → (w.upcoming i).isUnreachable = true
  sent : done.1.sent = w.sent ++ List.replicate (c.tries w) r
  coming : done.1.coming = w.coming.drop (c.tries w)
  waits : ∃ pauses, done.1.waits = w.waits ++ pauses ∧
    pauses.map some = (List.range (c.tries w - 1)).map fun i => c.delay.times? (2 ^ i)
  result : done.2 = answer (w.upcoming (c.tries w - 1))

/-- A call has ended before a try that was due, because the pause before it cannot be kept. Up
to there it has done what a call does that persists. -/
def BreaksOff (c : HttpClient) (r : Request) (w : Wire) (done : Wire × Except Failure α) : Prop :=
  ∃ i f, i + 1 < c.tries w ∧ c.pause i = .error f ∧ done.2 = .error (.fault f) ∧
    (∀ j ≤ i, (w.upcoming j).isUnreachable = true) ∧
    done.1.sent = w.sent ++ List.replicate (i + 1) r ∧
    ∃ pauses, done.1.waits = w.waits ++ pauses ∧
      pauses.map some = (List.range i).map fun j => c.delay.times? (2 ^ j)

/-- What is asked of a service is one request, tried again while there is no connection,
whatever comes of the tries and however often and after whatever delay the client tries. -/
def IsRetried (base : Text) (call : HttpClient → ApiCall Wire α) : Prop :=
  ∃ (r : Request) (answer : Exchange → Except Failure α),
    (∀ x, answer x ≠ .error exhausted) ∧
      ∀ attempts delay w,
        let c := create base attempts delay
        (Persists c r answer w (call c w) ↔ ¬c.Falters w) ∧
          (c.Falters w → BreaksOff c r w (call c w))

section Calls

variable {base path method : Text} {body : Option Json} {call : HttpClient → ApiCall Wire α}

theorem not_persists_of_breaksOff {answer : Exchange → Except Failure α}
    {done : Wire × Except Failure α} (h : BreaksOff c r w done) : ¬Persists c r answer w done := by
  obtain ⟨i, f, hi, -, -, -, hsent, -⟩ := h
  intro hpersists
  have hlength := congrArg List.length (hsent.symm.trans hpersists.sent)
  simp only [List.length_append, List.length_replicate] at hlength
  omega

theorem attempts_create_pos (base : Text) (attempts : Int) (delay : Seconds) :
    0 < (create base attempts delay).attempts := by
  change 0 < (max 1 attempts).toNat
  omega

/-- A call is one request tried again where it is the loop, with the result looked at. -/
theorem isRetried_of_try (hmethod : r.method = "GET" ∨ r.method = "POST")
    (look : Except Failure (Table Json) → Except Failure α)
    (hfault : ∀ f, look (.error f) = .error f)
    (hlook : ∀ x, x ≠ .error exhausted → look x ≠ .error exhausted)
    (hcall : ∀ attempts delay w, call (create base attempts delay) w =
      ((create base attempts delay).try_ r 0 (create base attempts delay).attempts w).map id look) :
    IsRetried base call := by
  refine ⟨r, fun x => look (outcome r (some x)),
    fun x => hlook _ (outcome_ne_exhausted hmethod x), ?_⟩
  intro attempts delay w c
  have hpos : 0 < c.attempts := attempts_create_pos base attempts delay
  rw [hcall]
  rcases c.pauses_cases w hpos with
    ⟨hfalters, pauses, hkeeps, hlength⟩ | ⟨hfalters, pauses, f, hkeeps, hlength, hf⟩
  · rw [try_of_keeps hkeeps hlength]
    refine ⟨iff_of_true ?_ hfalters, fun h => absurd h hfalters⟩
    exact {
      lacks := fun i hi => isUnreachable_of_lt_tries hi
      sent := rfl
      coming := rfl
      waits := ⟨pauses, rfl, by rw [hkeeps.map_some, ← hlength, Nat.add_sub_cancel]⟩
      result := rfl }
  · rw [try_of_error hkeeps hf hlength]
    have hbreaks : BreaksOff c r w
        (Prod.map id look (w.after r (pauses.length + 1) pauses, .error (.fault f))) :=
      ⟨pauses.length, f, hlength, hf, hfault _,
        fun j hj => isUnreachable_of_lt_tries (Nat.lt_of_le_of_lt (Nat.succ_le_succ hj) hlength),
        rfl, pauses, rfl, hkeeps.map_some⟩
    exact ⟨iff_of_false (not_persists_of_breaksOff hbreaks) (not_not_intro hfalters),
      fun _ => hbreaks⟩

theorem request_of_isSendable (h : IsSendable base path body) (method : Text) :
    ∃ r : Request, r.method = method ∧ ∀ attempts delay w,
      (create base attempts delay).request method path body w =
        (create base attempts delay).try_ r 0 (create base attempts delay).attempts w := by
  obtain ⟨target, htarget, hbody⟩ := h
  refine ⟨⟨method, (standard base).base ++ path, target, body⟩, rfl, ?_⟩
  intro attempts delay w
  have haddress : Target.read ((create base attempts delay).base ++ path) = .ok target := htarget
  rw [request, haddress, hbody]
  rfl

theorem isRetried_request (h : IsSendable base path body)
    (hmethod : method = "GET" ∨ method = "POST") :
    IsRetried base fun c => c.request method path body := by
  obtain ⟨r, rfl, hcall⟩ := request_of_isSendable h method
  exact isRetried_of_try hmethod id (fun _ => rfl) (fun _ hx => hx) hcall

theorem record_ne_exhausted {x : Except Failure (Table Json)} (h : x ≠ .error exhausted) :
    (x.bind fun data => (ArticleRecord.ofJson data).mapError unexpectedData) ≠
      .error exhausted := by
  cases x with
  | error f => exact fun heq => h (by rw [Except.error.inj heq])
  | ok data =>
      change (ArticleRecord.ofJson data).mapError unexpectedData ≠ .error exhausted
      cases ArticleRecord.ofJson data with
      | ok found => nofun
      | error issues =>
          intro heq
          have hcode : ("INVALID_RESPONSE" : Text) = "NETWORK_ERROR" := by
            injection heq with heq
            injection heq with heq
            injection heq with heq
            exact congrArg RemoteError.code heq
          exact absurd hcode (by decide)

theorem isRetried_record (h : IsSendable base path body)
    (hmethod : method = "GET" ∨ method = "POST") :
    IsRetried base fun c w => record (c.request method path body w) := by
  obtain ⟨r, rfl, hcall⟩ := request_of_isSendable h method
  refine isRetried_of_try hmethod
    (fun x => x.bind fun data => (ArticleRecord.ofJson data).mapError unexpectedData)
    (fun _ => rfl) (fun _ hx => record_ne_exhausted hx) ?_
  intro attempts delay w
  rw [hcall]
  rfl

theorem isRetried_send {document : Json} {bundles : List Text} {metadata : Table Json}
    {more : KeyTable Json} {body : Json}
    (hbody : payload document bundles metadata more = .ok body)
    (h : IsSendable base path (some body)) :
    IsRetried base fun c => c.send path document bundles metadata more := by
  have hsend : (fun c : HttpClient => c.send path document bundles metadata more) =
      fun c w => record (c.request "POST" path (some body) w) := by
    funext c w
    rw [send, hbody]
  rw [hsend]
  exact isRetried_record h (.inr rfl)

end Calls

/-- Two connections that fail, and then a response. -/
def shortOutage : Wire :=
  ⟨[.unreachable "refused", .unreachable "refused", .response 200 []], [], []⟩

theorem not_falters_shortOutage : ¬(standard "https://news.example.com").Falters shortOutage := by
  rintro ⟨i, f, hi, hf⟩
  have htries : (standard "https://news.example.com").tries shortOutage = 3 := by decide
  rw [htries] at hi
  rw [pause_of_real rfl] at hf
  obtain rfl | rfl : i = 0 ∨ i = 1 := by omega
  · have hfactor : floatOfInt? (2 ^ 0 : Nat) = some 1.0 := by decide +kernel
    rw [hfactor] at hf
    cases hf
  · have hfactor : floatOfInt? (2 ^ 1 : Nat) = some 2.0 := by decide +kernel
    rw [hfactor] at hf
    cases hf

/-- A client that does not wait, and tries often. -/
def hastyClient : HttpClient := create "https://news.example.com" 1100 (.real 0.0)

/-- No connection for longer than pauses with fractions can double, and then a response. -/
def longOutage : Wire :=
  ⟨List.replicate 1025 (.unreachable "refused") ++ [.response 503 []], [], []⟩

theorem tries_longOutage : hastyClient.tries longOutage = 1026 := by decide +kernel

/-- The pause after so many tries would have a factor that no floating-point number reaches. -/
theorem pause_hastyClient : hastyClient.pause 1024 = .error .oversizedNumber := by
  have hfactor : floatOfInt? (2 ^ 1024 : Nat) = none := by decide +kernel
  rw [pause_of_real rfl, hfactor]

end HttpClient

end ArticleExport
