import ArticleExport.Proofs.Push.Calls
import ArticleExport.Proofs.Push.Keeping
import ArticleExport.Proofs.State.Interchange

/-!
# How old the channel is

The channel is kept when it is looked up, and every look-up keeps it anew: one that finds it
kept as well as one that asks the service.  So the lifetime counts from the last look-up and
not from the call that fetched the channel, and a channel that is looked up often enough is
never asked for again.

`ChannelRun` is a run of look-ups, with anything in between that leaves the kept channel
alone.  An answer stems from the latest call of the run (`Stems`), and a look-up makes no call
only where the lifetime of an earlier answer is not over (`channel_stems_from_latest_call`).
-/

namespace ArticleExport.Lookup

variable {σ : Type} {api : PublishingApi σ} {w : World σ}

/-- What is kept of the channel. -/
def keptEntry (w : World σ) : Option Transient := w.state.holdings.transient? channelKey

/-- When a channel expires that is kept now. -/
def lifetimeEnd (s : StateStore) : Except Fault Seconds := do
  s.holdings.keptUntil (← s.later (.whole channelLifetime))

/-- The text that is kept for what came of a call.  An error of the service is kept as an empty
text, and another failure is not kept. -/
def keptText : Except Failure (Table Json) → Except Failure Text
  | .ok entries => .ok (Json.print .plainAscii (.obj entries))
  | .error (.error (.remote _)) => .ok []
  | .error f => .error f

/-- The answer that is read from a kept text. -/
def answerOf (text : Text) : Except Failure Json := (readChannel (.str text)).mapError .fault

/-! ## One look-up -/

/-- The end of a look-up that has found a text. -/
def answer (text : Text) : Run σ Json :=
  keepChannel (.str text) >>= fun _ => Run.ofFault (readChannel (.str text))

/-- The world after the service was asked for the channel. -/
def asked (api : PublishingApi σ) (w : World σ) : World σ :=
  { w with
    state := (w.state.transient channelKey).2
    service := (api.channel w.settings.apiChannel w.service).1 }

theorem freshChannel_apply (api : PublishingApi σ)
    (hconfigured : w.settings.isApiConfigured = true) :
    freshChannel api w = (keptText (api.channel w.settings.apiChannel w.service).2,
      { w with service := (api.channel w.settings.apiChannel w.service).1 }) := by
  have hcall : Run.call (api.channel w.settings.apiChannel) w =
      ((api.channel w.settings.apiChannel w.service).2,
        { w with service := (api.channel w.settings.apiChannel w.service).1 }) := rfl
  rw [freshChannel, Run.bind_of_ok (Run.get_apply w), if_pos hconfigured, Run.handle_apply]
  cases houtcome : (api.channel w.settings.apiChannel w.service).2 with
  | ok entries =>
      rw [houtcome] at hcall
      rw [Run.bind_of_ok hcall]
      rfl
  | error f =>
      rw [houtcome] at hcall
      rw [Run.bind_of_error hcall]
      cases f with
      | fault f => rfl
      | error e => cases e <;> rfl

theorem transient_of_none (h : keptEntry w = none) :
    w.state.transient channelKey = (.null, w.state) := by
  have hnone : w.state.holdings.transient? channelKey = none := h
  rw [StateStore.transient, hnone]

/-- Looking at what is kept drops it where its lifetime is over. -/
theorem transient_of_some {kept : Transient} (h : keptEntry w = some kept) :
    w.state.transient channelKey =
      if kept.expires.le w.state.now then
        (.null, { w.state with holdings := w.state.holdings.deleteTransient channelKey })
      else (kept.value, w.state) := by
  have hsome : w.state.holdings.transient? channelKey = some kept := h
  rw [StateStore.transient, hsome]

/-- A channel whose lifetime is not over is answered, and kept anew. -/
theorem currentChannel_of_entry (api : PublishingApi σ) {text : Text} {expires : Seconds}
    (hentry : keptEntry w = some ⟨.str text, expires⟩) (hlive : expires.le w.state.now = false) :
    currentChannel api w = answer text w := by
  have hkept : w.state.transient channelKey = (.str text, w.state) := by
    rw [transient_of_some hentry, hlive, if_neg Bool.false_ne_true]
  rw [currentChannel, Run.bind_of_ok (keptChannel_apply w), hkept]
  rfl

/-- Without a channel that is kept the service is asked. -/
theorem currentChannel_of_gone (api : PublishingApi σ)
    (hgone : (w.state.transient channelKey).1 = .null)
    (hconfigured : w.settings.isApiConfigured = true) :
    currentChannel api w =
      match keptText (api.channel w.settings.apiChannel w.service).2 with
      | .ok text => answer text (asked api w)
      | .error f => (.error f, asked api w) := by
  have hfresh := freshChannel_apply api
    (w := { w with state := (w.state.transient channelKey).2 }) hconfigured
  rw [currentChannel, Run.bind_of_ok (keptChannel_apply w), hgone]
  change ((freshChannel api >>= fun t => pure (Json.str t)) >>= fun kept =>
    keepChannel kept >>= fun _ => Run.ofFault (readChannel kept)) _ = _
  rw [Run.bind_apply, Run.bind_apply, hfresh]
  dsimp only
  cases keptText (api.channel w.settings.apiChannel w.service).2 with
  | ok text => rfl
  | error f => rfl

theorem keepChannel_apply (kept : Json) (w : World σ) :
    keepChannel kept w =
      match w.state.putTransient channelKey kept (.whole channelLifetime) with
      | .ok state => (.ok ⟨⟩, { w with state := state })
      | .error f => (.error (.fault f), w) := by
  rw [keepChannel, Run.bind_of_ok (Run.get_apply w), Run.bind_apply, Run.ofFault_apply]
  cases w.state.putTransient channelKey kept (.whole channelLifetime) with
  | ok state => rfl
  | error f => rfl

/-- A text that has been found is kept for a lifetime and answered, or it cannot be kept and
nothing changes. -/
theorem answer_cases (text : Text) (w : World σ) :
    (∃ expires, lifetimeEnd w.state = .ok expires ∧
      keptEntry (answer text w).2 = some ⟨.str text, expires⟩ ∧
      (answer text w).1 = answerOf text ∧ (answer text w).2.service = w.service) ∨
    ∃ f, answer text w = (.error f, w) := by
  have hkeep := keepChannel_apply (.str text) w
  cases hput : w.state.putTransient channelKey (.str text) (.whole channelLifetime) with
  | error f =>
      rw [hput] at hkeep
      exact .inr ⟨_, Run.bind_of_error hkeep _⟩
  | ok state =>
      rw [hput] at hkeep
      refine .inl ?_
      obtain ⟨later, hlater, hrest⟩ := exceptBind_eq_ok hput
      obtain ⟨holdings, hholdings, hdone⟩ := exceptBind_eq_ok hrest
      obtain rfl := Except.ok.inj hdone
      obtain ⟨expires, hexpires, hentry⟩ := Holdings.transient?_of_putTransient hholdings
      have hend : lifetimeEnd w.state = .ok expires := by
        rw [lifetimeEnd, hlater]
        exact hexpires
      rw [answer, Run.bind_of_ok hkeep, Run.ofFault_apply]
      exact ⟨expires, hend, hentry, rfl, rfl⟩

/-! ## Runs of look-ups -/

/-- A look-up of the channel. -/
structure Look where
  /-- The time. -/
  time : Seconds
  /-- The end of the lifetime that begins with it. -/
  ends : Except Fault Seconds
  /-- The calls of the service that it makes. -/
  calls : List ServiceCall
  /-- The answer, or the failure with which it ends. -/
  result : Except Failure Json

/-- The lifetime that begins with a look-up is over at a time. -/
def Look.IsOver (l : Look) (time : Seconds) : Prop :=
  ∃ expires, l.ends = .ok expires ∧ expires.le time = true

/-- A look-up has made one call, and this is what came of it. -/
def Look.Fetches (l : Look) (outcome : Except Failure (Table Json)) : Prop :=
  ∃ channel, l.calls = [.channel channel outcome]

/-- The look-up in a world. -/
def look (api : PublishingApi σ) (w : World σ) : Look where
  time := w.state.now
  ends := lifetimeEnd w.state
  calls := ((currentChannel (api.noted []) (w.noting [])).2.service.calls).map Prod.snd
  result := (currentChannel api w).1

/-- The notes do not change a look-up. -/
theorem tracks_currentChannel (api : PublishingApi σ) (item : Text) :
    (currentChannel (api.noted item)).Tracks (currentChannel api) := by
  have hkept : (keptChannel : Run (Noted σ) Json).Tracks keptChannel :=
    Run.tracks_get_bind fun _ => (Run.tracks_set rfl).bind fun _ => Run.tracks_pure _
  have hfresh : (freshChannel (api.noted item)).Tracks (freshChannel api) := by
    refine Run.tracks_get_bind fun w => Run.tracks_ite ?_ (Run.tracks_pure _)
    refine ((Run.tracks_call _ _ _).bind fun _ => Run.tracks_pure _).handle fun f => ?_
    cases f with
    | fault f => exact Run.tracks_throw _
    | error e =>
        cases e with
        | remote e => exact Run.tracks_pure _
        | _ => exact Run.tracks_throw _
  have hanswer : ∀ kept, (keepChannel kept >>= fun _ => Run.ofFault (readChannel kept) :
      Run (Noted σ) Json).Tracks (keepChannel kept >>= fun _ => Run.ofFault (readChannel kept)) :=
    fun kept => (Run.tracks_get_bind fun _ => (Run.tracks_ofFault _).bind fun _ =>
      Run.tracks_set rfl).bind fun _ => Run.tracks_ofFault _
  refine hkept.bind fun kept => Run.tracks_ite ?_ ?_
  · exact (hfresh.bind fun _ => Run.tracks_pure _).bind hanswer
  · exact (Run.tracks_pure _).bind hanswer

/-- Look-ups of the channel, one after the other, with what they were.  Nothing is kept of the
channel at first.  Before each look-up anything may happen that leaves what is kept of the
channel alone and the service configured. -/
inductive ChannelRun (api : PublishingApi σ) : World σ → List Look → Prop
  | start {w : World σ} (hnone : keptEntry w = none) : ChannelRun api w []
  | looked {w v : World σ} {looks : List Look} (h : ChannelRun api w looks)
      (hkept : keptEntry v = keptEntry w) (hconfigured : v.settings.isApiConfigured = true) :
      ChannelRun api (currentChannel api v).2 (looks ++ [look api v])

/-- The text that is kept stems from the latest call of some look-ups, and was kept at one of
them from this call on. -/
def Stems (looks : List Look) (text : Text) (expires : Seconds) : Prop :=
  ∃ before call after outcome, looks = before ++ call :: after ∧
    call.Fetches outcome ∧ keptText outcome = .ok text ∧ (∀ l ∈ after, l.calls = []) ∧
      ∃ l ∈ call :: after, l.ends = .ok expires ∧ l.result = answerOf text

section Look

variable {looks : List Look} {text : Text} {expires : Seconds}

/-- A look-up that makes a call. -/
theorem Stems.fetched (looks : List Look) {l : Look} {outcome : Except Failure (Table Json)}
    (hfetches : l.Fetches outcome) (htext : keptText outcome = .ok text)
    (hends : l.ends = .ok expires) (hresult : l.result = answerOf text) :
    Stems (looks ++ [l]) text expires :=
  ⟨looks, l, [], outcome, rfl, hfetches, htext, List.forall_mem_nil _, l,
    List.mem_singleton_self l, hends, hresult⟩

/-- A look-up without a call that keeps the text anew. -/
theorem Stems.renewed (h : Stems looks text expires) {l : Look} (hcalls : l.calls = [])
    {renewed : Seconds} (hends : l.ends = .ok renewed) (hresult : l.result = answerOf text) :
    Stems (looks ++ [l]) text renewed := by
  obtain ⟨before, call, after, outcome, rfl, hfetches, htext, hafter, -⟩ := h
  refine ⟨before, call, after ++ [l], outcome, by simp, hfetches, htext, ?_, l, by simp, hends,
    hresult⟩
  exact List.forall_mem_append.mpr ⟨hafter, List.forall_mem_singleton.mpr hcalls⟩

/-- A look-up without a call that leaves what is kept alone. -/
theorem Stems.left (h : Stems looks text expires) {l : Look} (hcalls : l.calls = []) :
    Stems (looks ++ [l]) text expires := by
  obtain ⟨before, call, after, outcome, rfl, hfetches, htext, hafter, m, hm, hends, hresult⟩ := h
  refine ⟨before, call, after ++ [l], outcome, by simp, hfetches, htext, ?_, m, ?_, hends, hresult⟩
  · exact List.forall_mem_append.mpr ⟨hafter, List.forall_mem_singleton.mpr hcalls⟩
  · exact List.mem_append_left [l] hm

/-- A look-up that finds the channel kept makes no call. -/
theorem calls_of_entry (hentry : keptEntry w = some ⟨.str text, expires⟩)
    (hlive : expires.le w.state.now = false) : (look api w).calls = [] := by
  have hnoted := currentChannel_of_entry (api.noted []) (w := w.noting []) hentry hlive
  change ((currentChannel (api.noted []) (w.noting [])).2.service.calls).map Prod.snd = []
  rw [hnoted]
  rcases answer_cases text (w.noting []) with ⟨-, -, -, -, hservice⟩ | ⟨f, hanswer⟩
  · rw [hservice]
    rfl
  · rw [hanswer]
    rfl

/-- A look-up that does not find the channel kept makes one call. -/
theorem fetches_of_gone (hgone : (w.state.transient channelKey).1 = .null)
    (hconfigured : w.settings.isApiConfigured = true) :
    (look api w).Fetches (api.channel w.settings.apiChannel w.service).2 := by
  have hnoted := currentChannel_of_gone (api.noted []) (w := w.noting []) hgone hconfigured
  refine ⟨w.settings.apiChannel, ?_⟩
  change ((currentChannel (api.noted []) (w.noting [])).2.service.calls).map Prod.snd = _
  rw [hnoted]
  change ((match keptText (api.channel w.settings.apiChannel w.service).2 with
    | .ok text => answer text (asked (api.noted []) (w.noting []))
    | .error f => (.error f, asked (api.noted []) (w.noting []))).2.service.calls).map Prod.snd = _
  cases keptText (api.channel w.settings.apiChannel w.service).2 with
  | error f => rfl
  | ok text =>
      rcases answer_cases text (asked (api.noted []) (w.noting [])) with
        ⟨-, -, -, -, hservice⟩ | ⟨f, hanswer⟩
      · dsimp only
        rw [hservice]
        rfl
      · dsimp only
        rw [hanswer]
        rfl

/-- What a look-up that has found a text leaves: the text kept for a lifetime, or what was kept
before where it cannot be kept anew. -/
def Settles (api : PublishingApi σ) (w : World σ) (text : Text) (old : Option Transient) : Prop :=
  (∃ expires, (look api w).ends = .ok expires ∧ (look api w).result = answerOf text ∧
    keptEntry (currentChannel api w).2 = some ⟨.str text, expires⟩) ∨
  ((∃ f, (look api w).result = .error f) ∧ keptEntry (currentChannel api w).2 = old)

theorem settles_of_answer {u : World σ} (h : currentChannel api w = answer text u)
    (hend : lifetimeEnd u.state = lifetimeEnd w.state) : Settles api w text (keptEntry u) := by
  have hresult : (look api w).result = (answer text u).1 := congrArg Prod.fst h
  rw [Settles, hresult, h]
  rcases answer_cases text u with ⟨expires, hexpires, hentry, hanswer, -⟩ | ⟨f, hanswer⟩
  · exact .inl ⟨expires, hend.symm.trans hexpires, hanswer, hentry⟩
  · rw [hanswer]
    exact .inr ⟨⟨f, rfl⟩, rfl⟩

theorem Settles.answerOf_eq {old : Option Transient} (h : Settles api w text old) {channel : Json}
    (hresult : (look api w).result = .ok channel) : answerOf text = .ok channel := by
  rcases h with ⟨expires, -, hanswer, -⟩ | ⟨⟨f, hf⟩, -⟩
  · exact hanswer.symm.trans hresult
  · rw [hresult] at hf
    cases hf

/-- The channel is not kept, or its lifetime is over. -/
def IsGone (w : World σ) : Prop :=
  ∀ kept, keptEntry w = some kept → kept.expires.le w.state.now = true

theorem transient_of_isGone (api : PublishingApi σ) (h : IsGone w) :
    (w.state.transient channelKey).1 = .null ∧ keptEntry (asked api w) = none ∧
      lifetimeEnd (asked api w).state = lifetimeEnd w.state := by
  cases hentry : keptEntry w with
  | none =>
      have hkept := transient_of_none hentry
      have hstate : (asked api w).state = w.state := congrArg Prod.snd hkept
      rw [keptEntry, hstate, hkept]
      exact ⟨rfl, hentry, rfl⟩
  | some kept =>
      have hkept : w.state.transient channelKey =
          (.null, { w.state with holdings := w.state.holdings.deleteTransient channelKey }) := by
        rw [transient_of_some hentry, if_pos (h kept hentry)]
      have hstate : (asked api w).state =
          { w.state with holdings := w.state.holdings.deleteTransient channelKey } :=
        congrArg Prod.snd hkept
      rw [keptEntry, hstate, hkept]
      refine ⟨rfl, ?_, ?_⟩
      · exact (Holdings.transient?_deleteTransient _ _ _).trans (if_pos rfl)
      · cases hholdings : w.state.holdings <;> simp only [lifetimeEnd, hholdings] <;> rfl

/-- A look-up that does not find the channel kept asks the service. -/
theorem look_of_isGone (api : PublishingApi σ) (h : IsGone w)
    (hconfigured : w.settings.isApiConfigured = true) :
    ∃ outcome, (look api w).Fetches outcome ∧
      ((∃ text, keptText outcome = .ok text ∧ Settles api w text none) ∨
        ∃ f, (look api w).result = .error f ∧ keptEntry (currentChannel api w).2 = none) := by
  obtain ⟨hgone, hnone, hend⟩ := transient_of_isGone api h
  refine ⟨_, fetches_of_gone hgone hconfigured, ?_⟩
  have hlook := currentChannel_of_gone api hgone hconfigured
  cases htext : keptText (api.channel w.settings.apiChannel w.service).2 with
  | ok text =>
      rw [htext] at hlook
      have hsettles := settles_of_answer hlook hend
      rw [hnone] at hsettles
      exact .inl ⟨text, rfl, hsettles⟩
  | error f =>
      rw [htext] at hlook
      refine .inr ⟨f, congrArg Prod.fst hlook, ?_⟩
      rw [hlook]
      exact hnone

/-- A look-up that finds the channel kept repeats it. -/
theorem look_of_entry (api : PublishingApi σ)
    (hentry : keptEntry w = some ⟨.str text, expires⟩) (hlive : expires.le w.state.now = false) :
    (look api w).calls = [] ∧ Settles api w text (some ⟨.str text, expires⟩) := by
  refine ⟨calls_of_entry hentry hlive, ?_⟩
  have hsettles := settles_of_answer (currentChannel_of_entry api hentry hlive) rfl
  rwa [hentry] at hsettles

end Look

/-- What is kept after a run of look-ups stems from the latest call. -/
theorem ChannelRun.stems {looks : List Look} (h : ChannelRun api w looks) {kept : Transient}
    (hkept : keptEntry w = some kept) :
    ∃ text, kept.value = .str text ∧ Stems looks text kept.expires := by
  induction h generalizing kept with
  | start hnone =>
      rw [hnone] at hkept
      cases hkept
  | @looked w v looks _ hsame hconfigured ih =>
      by_cases hgone : IsGone v
      · obtain ⟨outcome, hfetches, ⟨text, htext, hsettles⟩ | ⟨f, -, hnone⟩⟩ :=
          look_of_isGone api hgone hconfigured
        · rcases hsettles with ⟨expires, hends, hresult, hentry⟩ | ⟨-, hnone⟩
          · rw [hentry] at hkept
            obtain rfl := Option.some.inj hkept
            exact ⟨text, rfl, .fetched looks hfetches htext hends hresult⟩
          · rw [hnone] at hkept
            cases hkept
        · rw [hnone] at hkept
          cases hkept
      · obtain ⟨⟨value, expires⟩, hentry, hlive⟩ : ∃ old, keptEntry v = some old ∧
            old.expires.le v.state.now = false := by
          simpa [IsGone] using hgone
        obtain ⟨text, rfl, hstems⟩ := ih (hsame.symm.trans hentry)
        obtain ⟨hcalls, ⟨renewed, hends, hresult, hrenewed⟩ | ⟨-, hleft⟩⟩ :=
          look_of_entry api hentry hlive
        · rw [hrenewed] at hkept
          obtain rfl := Option.some.inj hkept
          exact ⟨text, rfl, hstems.renewed hcalls hends hresult⟩
        · rw [hleft] at hkept
          obtain rfl := Option.some.inj hkept
          exact ⟨text, rfl, hstems.left hcalls⟩

/-- The last look-up of a run, with the world in which it was made. -/
theorem ChannelRun.exists_last {looks : List Look} {l : Look} (h : ChannelRun api w (looks ++ [l])) :
    ∃ u v, ChannelRun api u looks ∧ keptEntry v = keptEntry u ∧
      v.settings.isApiConfigured = true ∧ l = look api v ∧ w = (currentChannel api v).2 := by
  generalize hall : looks ++ [l] = all at h
  cases h with
  | start hnone => simp at hall
  | @looked u v before hrun hkept hconfigured =>
      obtain ⟨rfl, hlast⟩ := List.append_inj' hall rfl
      exact ⟨u, v, hrun, hkept, hconfigured, List.singleton_inj.mp hlast, rfl⟩

/-- After a look-up with an answer something is kept, and expires at the end of the lifetime
that began with it. -/
theorem ChannelRun.exists_kept {looks : List Look} {m : Look} {channel : Json}
    (h : ChannelRun api w (looks ++ [m])) (hresult : m.result = .ok channel) :
    ∃ kept, keptEntry w = some kept ∧ m.ends = .ok kept.expires := by
  obtain ⟨u, v, hrun, hsame, hconfigured, rfl, rfl⟩ := h.exists_last
  have hsettled : ∀ {text : Text} {old : Option Transient}, Settles api v text old →
      ∃ kept, keptEntry (currentChannel api v).2 = some kept ∧
        (look api v).ends = .ok kept.expires := by
    intro text old hsettles
    rcases hsettles with ⟨expires, hends, -, hentry⟩ | ⟨⟨f, hf⟩, -⟩
    · exact ⟨_, hentry, hends⟩
    · rw [hresult] at hf
      cases hf
  by_cases hgone : IsGone v
  · obtain ⟨outcome, -, ⟨text, -, hsettles⟩ | ⟨f, hf, -⟩⟩ :=
      look_of_isGone api hgone hconfigured
    · exact hsettled hsettles
    · rw [hresult] at hf
      cases hf
  · obtain ⟨⟨value, expires⟩, hentry, hlive⟩ : ∃ old, keptEntry v = some old ∧
        old.expires.le v.state.now = false := by
      simpa [IsGone] using hgone
    obtain ⟨text, rfl, -⟩ := hrun.stems (hsame.symm.trans hentry)
    exact hsettled (look_of_entry api hentry hlive).2

/-- The answer of a look-up is read from what came of the latest call.  Either the look-up has
made this call itself, or the call came before and the lifetime of a look-up with this answer,
the one of the call or a later one, is not over.  And where the look-up before has given an
answer, the service is asked exactly where the lifetime that began then is over. -/
theorem channel_stems_from_latest_call (api : PublishingApi σ) {w : World σ} {looks : List Look}
    {l : Look} (h : ChannelRun api w (looks ++ [l])) {channel : Json}
    (hresult : l.result = .ok channel) :
    (∃ before call after outcome text, looks ++ [l] = before ++ call :: after ∧
      call.Fetches outcome ∧ keptText outcome = .ok text ∧ answerOf text = .ok channel ∧
      (∀ m ∈ after, m.calls = []) ∧
      (l.calls = [] → ∃ m ∈ looks, m ∈ call :: after ∧ m.result = .ok channel ∧
        ¬m.IsOver l.time)) ∧
    ∀ earlier m answered, looks = earlier ++ [m] → m.result = .ok answered →
      (l.calls = [] ↔ ¬m.IsOver l.time) := by
  obtain ⟨u, v, hrun, hsame, hconfigured, rfl, rfl⟩ := h.exists_last
  by_cases hgone : IsGone v
  · obtain ⟨outcome, hfetches, hsettled⟩ := look_of_isGone api hgone hconfigured
    have hcalls : (look api v).calls ≠ [] := by
      obtain ⟨name, hcall⟩ := hfetches
      rw [hcall]
      exact List.cons_ne_nil _ _
    refine ⟨?_, ?_⟩
    · rcases hsettled with ⟨text, htext, hsettles⟩ | ⟨f, hf, -⟩
      · have hchannel := hsettles.answerOf_eq hresult
        exact ⟨looks, look api v, [], outcome, text, rfl, hfetches, htext, hchannel,
          List.forall_mem_nil _, fun h => absurd h hcalls⟩
      · rw [hresult] at hf
        cases hf
    · rintro earlier m answered rfl hanswered
      obtain ⟨kept, hkept, hends⟩ := hrun.exists_kept hanswered
      have hover : m.IsOver v.state.now := ⟨_, hends, hgone kept (hsame.trans hkept)⟩
      exact iff_of_false hcalls (not_not_intro hover)
  · obtain ⟨⟨value, expires⟩, hentry, hlive⟩ : ∃ old, keptEntry v = some old ∧
        old.expires.le v.state.now = false := by
      simpa [IsGone] using hgone
    have hold := hsame.symm.trans hentry
    have hnotOver : ∀ m : Look, m.ends = .ok expires → ¬m.IsOver v.state.now := by
      rintro m hends ⟨last, hover, hle⟩
      obtain rfl := Except.ok.inj (hends.symm.trans hover)
      rw [hlive] at hle
      cases hle
    obtain ⟨text, rfl, before, call, after, outcome, rfl, hfetches, htext, hafter, m, hm, hends,
      hanswer⟩ := hrun.stems hold
    obtain ⟨hcalls, hsettles⟩ := look_of_entry api hentry hlive
    have hchannel := hsettles.answerOf_eq hresult
    refine ⟨⟨before, call, after ++ [look api v], outcome, text, by simp, hfetches, htext, hchannel,
      ?_, fun _ => ⟨m, ?_, ?_, hanswer.trans hchannel, hnotOver m hends⟩⟩, ?_⟩
    · exact List.forall_mem_append.mpr ⟨hafter, List.forall_mem_singleton.mpr hcalls⟩
    · exact List.mem_append_right before hm
    · exact List.mem_append_left [look api v] hm
    · intro earlier m' answered hlooks hanswered
      rw [hlooks] at hrun
      obtain ⟨kept, hkept, hends'⟩ := hrun.exists_kept hanswered
      obtain rfl := Option.some.inj (hold.symm.trans hkept)
      exact iff_of_true hcalls (hnotOver m' hends')

/-- In memory, by whole seconds, a lifetime is over when its seconds have passed. -/
theorem isOver_look_iff {values : Table (KeyTable Json)} {transients : KeyTable Transient}
    {now : Int} (hstate : w.state = ⟨.whole now, .memory values transients⟩) (time : Int) :
    (look api w).IsOver (.whole time) ↔ now + channelLifetime ≤ time := by
  have hends : (look api w).ends = .ok (.whole (now + channelLifetime)) := by
    rw [look, hstate]
    rfl
  constructor
  · rintro ⟨expires, hexpires, hle⟩
    obtain rfl := Except.ok.inj (hends.symm.trans hexpires)
    exact of_decide_eq_true hle
  · intro h
    exact ⟨_, hends, decide_eq_true h⟩

/-! ## Looking up again and again -/

/-- The world with an account at another time, with another channel at the service. -/
def atTime (w : World Rehearsal) (time : Int) (channel : Table Json) : World Rehearsal :=
  { w with
    settings := .ofAccount false
    state := { w.state with now := .whole time }
    service := { w.service with channel := channel } }

theorem ChannelRun.later {w : World Rehearsal} {looks : List Look}
    (h : ChannelRun Rehearsal.api w looks) (time : Int) (channel : Table Json) :
    ChannelRun Rehearsal.api (currentChannel Rehearsal.api (atTime w time channel)).2
      (looks ++ [look Rehearsal.api (atTime w time channel)]) := by
  have hconfigured : (atTime w time channel).settings.isApiConfigured = true := by
    change (Settings.ofAccount false).isApiConfigured = true
    decide +kernel
  exact .looked h rfl hconfigured

/-- A world in which the channel has not been looked up. -/
def unasked : World Rehearsal := .fresh (.ofAccount false) (.ofList []) Rehearsal.initial

/-- A channel that the service has later. -/
def laterChannel : Table Json := [("id", .str "channel-2")]

/-- The world before the first look-up. -/
def beforeFirst : World Rehearsal := atTime unasked 0 Rehearsal.initial.channel

theorem state_beforeFirst : beforeFirst.state = ⟨.whole 0, .memory [] []⟩ := rfl

/-- The world before a look-up within the lifetime that the first one began. -/
def beforeSecond : World Rehearsal :=
  atTime (currentChannel Rehearsal.api beforeFirst).2 200 laterChannel

/-- The world before a look-up within the lifetime that the second one began. -/
def beforeThird : World Rehearsal :=
  atTime (currentChannel Rehearsal.api beforeSecond).2 400 laterChannel

theorem channelRun_second : ChannelRun Rehearsal.api (currentChannel Rehearsal.api beforeSecond).2
    (([] ++ [look Rehearsal.api beforeFirst]) ++ [look Rehearsal.api beforeSecond]) :=
  ((ChannelRun.start (w := unasked) rfl).later 0 Rehearsal.initial.channel).later 200 laterChannel

theorem result_beforeSecond :
    (look Rehearsal.api beforeSecond).result = .ok (.obj Rehearsal.initial.channel) := by
  obtain ⟨channel, hresult, hchannel⟩ := exists_of_holds
    (x := (look Rehearsal.api beforeSecond).result)
    (p := (· == .obj Rehearsal.initial.channel)) (by decide +kernel)
  rw [hresult, beq_iff_eq.mp hchannel]

theorem second_look_repeats_the_first :
    (look Rehearsal.api beforeSecond).calls = [] ∧
      ∃ call ∈ [look Rehearsal.api beforeFirst, look Rehearsal.api beforeSecond],
        ∃ outcome text, call.Fetches outcome ∧ keptText outcome = .ok text ∧
          answerOf text = .ok (.obj Rehearsal.initial.channel) := by
  obtain ⟨⟨before, call, after, outcome, text, hlooks, hfetches, htext, hanswer, -⟩, hcalls⟩ :=
    channel_stems_from_latest_call Rehearsal.api channelRun_second result_beforeSecond
  obtain ⟨channel, hfirst⟩ := exists_of_isOk (x := (look Rehearsal.api beforeFirst).result)
    (by decide +kernel)
  have hlive : ¬(look Rehearsal.api beforeFirst).IsOver (.whole 200) := by
    rw [isOver_look_iff state_beforeFirst]
    decide
  refine ⟨(hcalls [] _ channel rfl hfirst).mpr hlive, call, ?_, outcome, text, hfetches, htext,
    hanswer⟩
  change call ∈ ([] ++ [look Rehearsal.api beforeFirst]) ++ [look Rehearsal.api beforeSecond]
  rw [hlooks]
  exact List.mem_append_right before List.mem_cons_self

/-- A channel that is looked up twice within a lifetime is answered when the lifetime of the only
call is over, although the service has another one by then. -/
theorem third_look_outlives_the_call :
    ChannelRun Rehearsal.api (currentChannel Rehearsal.api beforeThird).2
      ((([] ++ [look Rehearsal.api beforeFirst]) ++ [look Rehearsal.api beforeSecond]) ++
        [look Rehearsal.api beforeThird]) ∧
    (look Rehearsal.api beforeSecond).calls = [] ∧ (look Rehearsal.api beforeThird).calls = [] ∧
    (look Rehearsal.api beforeThird).result = .ok (.obj Rehearsal.initial.channel) ∧
    (look Rehearsal.api beforeFirst).IsOver (look Rehearsal.api beforeThird).time ∧
    beforeThird.service.channel = laterChannel := by
  have hsecond : (look Rehearsal.api beforeSecond).calls.length = 0 := by decide +kernel
  have hthird : (look Rehearsal.api beforeThird).calls.length = 0 := by decide +kernel
  obtain ⟨channel, hresult, hchannel⟩ := exists_of_holds
    (x := (look Rehearsal.api beforeThird).result)
    (p := (· == .obj Rehearsal.initial.channel)) (by decide +kernel)
  refine ⟨channelRun_second.later 400 laterChannel, List.eq_nil_of_length_eq_zero hsecond,
    List.eq_nil_of_length_eq_zero hthird, ?_, ?_, rfl⟩
  · rw [hresult, beq_iff_eq.mp hchannel]
  · have htime : (look Rehearsal.api beforeThird).time = .whole 400 := rfl
    rw [htime, isOver_look_iff state_beforeFirst]
    decide

end ArticleExport.Lookup
