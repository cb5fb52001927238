import ArticleExport.Proofs.Article.Dates
import ArticleExport.Proofs.Push.Performance
import ArticleExport.Publish.Lookup
import ArticleExport.Publish.Rehearsal

/-!
# What is written is read back

A document is checked by writing it and reading it again, an article goes through a file,
and the channel is kept as a text.  None of this changes a value, as long as its texts are
made of characters and its whole numbers have few enough digits to be written.

A channel with nothing in it is the exception: it is kept, but it counts as none when it
is looked up.
-/

namespace ArticleExport

/-! ## Documents -/

theorem validateDocument_of_isPortable {entries : Table Json} (h : (Json.obj entries).IsPortable)
    (hne : entries ≠ []) :
    validateDocument (.ofJson (.obj entries)) = .ok entries := by
  rw [validateDocument, HostValue.toJson_ofJson h]
  cases entries with
  | nil => exact absurd rfl hne
  | cons e es => rfl

/-! ## The article file -/

theorem Workspace.write_of_isScalar {w : Workspace} (hw : w.isPresent = true) {v : Json}
    (hv : v.IsScalar) :
    w.write v = (⟨true, some (Json.print .indented v)⟩, .ok ⟨⟩) := by
  have htext : Text.IsScalar (Json.print .indented v) :=
    (Json.isScalar_print_iff Json.isScalar_indented v).mpr hv
  rw [write, hw]
  dsimp only
  rw [if_neg nofun, if_pos htext]

/-- A portable value is read from the file that it was written to. -/
theorem Workspace.read_write {w : Workspace} (hw : w.isPresent = true) {v : Json}
    (hv : v.IsPortable) :
    (w.write v).2 = .ok ⟨⟩ ∧ (w.write v).1.read = .ok v := by
  rw [write_of_isScalar hw hv.isScalar]
  exact ⟨rfl, hv.read_print Json.separates_indented⟩

/-! ## The channel -/

/-- The time at which what is put here expires: a file rounds it. -/
def Holdings.keptUntil : Holdings → Seconds → Except Fault Seconds
  | memory _ _, expires => .ok expires
  | file _ _, expires => fileTime expires

/-- A text that is put under a name is found under it, with the time when it expires. -/
theorem Holdings.transient?_of_putTransient {h h' : Holdings} {name text : Text} {expires : Seconds}
    (hput : h.putTransient (.text name) (.str text) expires = .ok h') :
    ∃ time, h.keptUntil expires = .ok time ∧
      h'.transient? (.text name) = some ⟨.str text, time⟩ := by
  cases h with
  | memory values transients =>
      obtain rfl := Except.ok.inj hput
      rw [transient?, KeyTable.get?_set, if_pos rfl]
      exact ⟨_, rfl, rfl⟩
  | file rows transients =>
      obtain ⟨t, ht, hrest⟩ := exceptBind_eq_ok hput
      obtain ⟨time, htime, hdone⟩ := exceptBind_eq_ok hrest
      obtain rfl := Except.ok.inj hdone
      have htext : t = text := by
        rw [fileText] at ht
        dsimp only [Json.key?, fileKey?] at ht
        cases hfault : keyFault? (.text text) with
        | some f =>
            rw [hfault] at ht
            cases ht
        | none =>
            rw [hfault] at ht
            exact (Except.ok.inj ht).symm
      have hothers : (transients.filter fun r => r.name != name).find?
          (fun r => fileKey? (.text name) == some r.name) = none := by
        rw [List.find?_eq_none]
        intro r hr hname
        have hne := (List.mem_filter.mp hr).2
        have heq : some name = some r.name := beq_iff_eq.mp hname
        rw [Option.some.inj heq, bne_self_eq_false] at hne
        cases hne
      have hown : (fileKey? (.text name) == some name) = true := beq_self_eq_true (some name)
      rw [transient?, List.find?_append, hothers, List.find?_singleton, if_pos hown, htext]
      exact ⟨time, htime, rfl⟩

/-- What is put under a name is found there until it expires. -/
theorem StateStore.transient_of_putTransient {s t u : StateStore} {name text : Text}
    {span : Seconds} (hput : s.putTransient (.text name) (.str text) span = .ok t)
    (hu : u.holdings = t.holdings) (hkept : (u.transient (.text name)).1 ≠ .null) :
    u.transient (.text name) = (.str text, u) := by
  obtain ⟨expires, -, hrest⟩ := exceptBind_eq_ok hput
  obtain ⟨holdings, hholdings, hdone⟩ := exceptBind_eq_ok hrest
  obtain rfl := Except.ok.inj hdone
  obtain ⟨time, -, hfound⟩ := Holdings.transient?_of_putTransient hholdings
  change u.holdings = holdings at hu
  rw [transient, hu, hfound] at hkept ⊢
  dsimp only at hkept ⊢
  split at hkept
  · exact absurd rfl hkept
  · rename_i hexpired
    rw [if_neg hexpired]

namespace Lookup

theorem readChannel_of_isPortable {entries : Table Json} (h : (Json.obj entries).IsPortable)
    (hne : entries ≠ []) :
    readChannel (.str (Json.print .plainAscii (.obj entries))) = .ok (.obj entries) := by
  have hbegins : (Json.print .plainAscii (.obj entries)).isEmpty = false := by
    cases entries <;> rfl
  have htruthy : (Json.obj entries).isTruthy = true := by
    cases entries with
    | nil => exact absurd rfl hne
    | cons e es => rfl
  rw [readChannel, Json.isTruthy, hbegins, h.read_print Json.separates_plainAscii]
  change Except.ok (if (Json.obj entries).isTruthy then Json.obj entries else .null) = _
  rw [htruthy, if_pos rfl]

variable {σ : Type} {api : PublishingApi σ} {w u v : World σ}

theorem keepChannel_eq_ok {kept : Json} (h : keepChannel kept w = (.ok ⟨⟩, v)) :
    w.state.putTransient channelKey kept (.whole channelLifetime) = .ok v.state ∧
      v.service = w.service := by
  rw [keepChannel, Run.bind_of_ok (Run.get_apply w)] at h
  obtain ⟨state, u, hstate, hset⟩ := Run.bind_eq_ok h
  obtain ⟨hput, rfl⟩ := Run.ofFault_eq_ok hstate
  obtain ⟨-, rfl⟩ := Prod.mk.inj hset
  exact ⟨hput, rfl⟩

theorem keptChannel_apply (w : World σ) :
    keptChannel w = (.ok (w.state.transient channelKey).1,
      { w with state := (w.state.transient channelKey).2 }) :=
  rfl

/-- What is answered has been kept, and is read from what is kept. -/
theorem answer_eq_ok {kept channel : Json}
    (h : (keepChannel kept >>= fun _ => Run.ofFault (readChannel kept)) w = (.ok channel, v)) :
    readChannel kept = .ok channel ∧
      w.state.putTransient channelKey kept (.whole channelLifetime) = .ok v.state ∧
        v.service = w.service := by
  obtain ⟨⟨⟩, u, hkeep, hread⟩ := Run.bind_eq_ok h
  obtain ⟨hchannel, rfl⟩ := Run.ofFault_eq_ok hread
  exact ⟨hchannel, keepChannel_eq_ok hkeep⟩

/-- A channel that is kept is answered as it is kept, and the service is not called. -/
theorem currentChannel_of_kept {text : Text} {channel : Json}
    (hkept : w.state.transient channelKey = (.str text, w.state))
    (h : currentChannel api w = (.ok channel, v)) :
    readChannel (.str text) = .ok channel ∧ v.service = w.service := by
  rw [currentChannel, Run.bind_of_ok (keptChannel_apply w), hkept] at h
  obtain ⟨hchannel, -, hservice⟩ := answer_eq_ok h
  exact ⟨hchannel, hservice⟩

theorem freshChannel_of_ok {entries : Table Json} {s : σ}
    (hconfigured : w.settings.isApiConfigured = true)
    (hfetched : api.channel w.settings.apiChannel w.service = (s, .ok entries)) :
    freshChannel api w =
      (.ok (Json.print .plainAscii (.obj entries)), { w with service := s }) := by
  have hcall : Run.call (api.channel w.settings.apiChannel) w =
      (.ok entries, { w with service := s }) := by
    change ((api.channel w.settings.apiChannel w.service).2,
      ({ w with service := (api.channel w.settings.apiChannel w.service).1 } : World σ)) = _
    rw [hfetched]
  rw [freshChannel, Run.bind_of_ok (Run.get_apply w), if_pos hconfigured, Run.handle_apply,
    Run.bind_of_ok hcall]
  rfl

/-- A channel that is not kept is asked for, and kept as a text. -/
theorem currentChannel_of_fresh {entries : Table Json} {s : σ} {channel : Json}
    (hnone : (w.state.transient channelKey).1 = .null)
    (hconfigured : w.settings.isApiConfigured = true)
    (hfetched : api.channel w.settings.apiChannel w.service = (s, .ok entries))
    (h : currentChannel api w = (.ok channel, v)) :
    readChannel (.str (Json.print .plainAscii (.obj entries))) = .ok channel ∧
      ∃ state : StateStore, state.putTransient channelKey
        (.str (Json.print .plainAscii (.obj entries))) (.whole channelLifetime) = .ok v.state := by
  let w' : World σ := { w with state := (w.state.transient channelKey).2 }
  have hfresh : (Json.str <$> freshChannel api) w' =
      (.ok (.str (Json.print .plainAscii (.obj entries))), { w' with service := s }) := by
    change (freshChannel api >>= fun t => pure (Json.str t)) w' = _
    rw [Run.bind_of_ok (freshChannel_of_ok (w := w') hconfigured hfetched)]
    rfl
  rw [currentChannel, Run.bind_of_ok (keptChannel_apply w), hnone] at h
  change ((Json.str <$> freshChannel api) >>= fun kept =>
    keepChannel kept >>= fun _ => Run.ofFault (readChannel kept)) w' = _ at h
  rw [Run.bind_of_ok hfresh] at h
  obtain ⟨hchannel, hput, -⟩ := answer_eq_ok h
  exact ⟨hchannel, _, hput⟩

/-- Whether a channel that is looked up in a world is answered as it was fetched, and for as long as it is
kept again so, without a call of the service. -/
def KeepsChannel (api : PublishingApi σ) (w : World σ) (entries : Table Json) : Prop :=
  ∀ (s : σ) (channel : Json) (v : World σ), (w.state.transient channelKey).1 = .null →
    w.settings.isApiConfigured = true →
    api.channel w.settings.apiChannel w.service = (s, .ok entries) →
    currentChannel api w = (.ok channel, v) →
      channel = .obj entries ∧
        ∀ u : World σ, u.state.holdings = v.state.holdings →
          (u.state.transient channelKey).1 ≠ .null →
          ∀ (again : Json) (u' : World σ), currentChannel api u = (.ok again, u') →
            again = .obj entries ∧ u'.service = u.service

theorem keepsChannel_of_isPortable (api : PublishingApi σ) (w : World σ) {entries : Table Json}
    (hentries : (Json.obj entries).IsPortable) (hne : entries ≠ []) :
    KeepsChannel api w entries := by
  intro s channel v hnone hconfigured hfetched h
  obtain ⟨hread, state, hput⟩ := currentChannel_of_fresh hnone hconfigured hfetched h
  have hback := readChannel_of_isPortable hentries hne
  rw [hback] at hread
  refine ⟨(Except.ok.inj hread).symm, ?_⟩
  intro u hu hkept again u' hagain
  have htransient := StateStore.transient_of_putTransient hput hu hkept
  obtain ⟨hread', hservice⟩ := currentChannel_of_kept htransient hagain
  rw [hback] at hread'
  exact ⟨(Except.ok.inj hread').symm, hservice⟩

end Lookup

/-! ## All that is written -/

/-- A portable value is read back from every form in which it is written: as it is from those that keep
the order of names, and up to that order from the canonical one.  So the check of a document leaves an
object with something in it as it is and refuses an empty one, the article file gives back what was written
to it, and a channel with something in it is answered from what is kept as it was fetched. -/
theorem written_json_is_read_back {v : Json} (hv : v.IsPortable) :
    Json.read (Json.print .plain v) = .ok v ∧ Json.read (Json.print .indented v) = .ok v ∧
      Json.read (Json.print .plainAscii v) = .ok v ∧
      (∃ u, Json.read v.canonicalText = .ok u ∧ Json.Reordered v u) ∧
      (∀ w : Workspace, w.isPresent = true → (w.write v).2 = .ok ⟨⟩ ∧ (w.write v).1.read = .ok v) ∧
      (∀ entries, v = .obj entries → entries ≠ [] →
        validateDocument (.ofJson v) = .ok entries ∧
          ∀ (σ : Type) (api : PublishingApi σ) (w : World σ), Lookup.KeepsChannel api w entries) ∧
      validateDocument (.ofJson (.obj [])) = .error emptyDocument := by
  refine ⟨hv.read_print Json.separates_plain, hv.read_print Json.separates_indented,
    hv.read_print Json.separates_plainAscii, hv.read_canonicalText, ?_, ?_, rfl⟩
  · intro w hw
    exact Workspace.read_write hw hv
  · rintro entries rfl hne
    refine ⟨validateDocument_of_isPortable hv hne, ?_⟩
    intro σ api w
    exact Lookup.keepsChannel_of_isPortable api w hv hne

/-- A channel with much of what is written in one form so and in another one otherwise. -/
def varied : Table Json :=
  [("name", .str "\"A\\B\" \n\u007f \u00e9 😀"), ("id", .int (-120)),
    ("places", .arr [.null, .bool true, .obj [], .arr [], .obj [("z", .int 0), ("a", .str "")]])]

theorem isPortable_varied : (Json.obj varied).IsPortable := by
  have hplace : (Json.obj [("z", .int 0), ("a", .str "")]).IsPortable := by
    refine .obj (by decide) (by decide) ?_
    exact List.forall_mem_cons.mpr ⟨.int (by decide), List.forall_mem_singleton.mpr (.str nofun)⟩
  refine .obj (by decide +kernel) (by decide +kernel) ?_
  refine List.forall_mem_cons.mpr ⟨.str (by decide +kernel), ?_⟩
  refine List.forall_mem_cons.mpr ⟨.int (by decide), List.forall_mem_singleton.mpr (.arr ?_)⟩
  refine List.forall_mem_cons.mpr ⟨.null, List.forall_mem_cons.mpr ⟨.bool true, ?_⟩⟩
  refine List.forall_mem_cons.mpr ⟨.obj List.nodup_nil nofun nofun, ?_⟩
  exact List.forall_mem_cons.mpr ⟨.arr nofun, List.forall_mem_singleton.mpr hplace⟩

theorem varied_is_read_back :
    Json.read (Json.print .plainAscii (.obj varied)) = .ok (.obj varied) ∧
      validateDocument (.ofJson (.obj varied)) = .ok varied ∧
      ∃ v u : World Rehearsal,
        Lookup.currentChannel Rehearsal.api
          (.fresh (.ofAccount false) (.ofList []) { Rehearsal.initial with channel := varied }) =
            (.ok (.obj varied), v) ∧
        Lookup.currentChannel Rehearsal.api v = (.ok (.obj varied), u) ∧ u.service = v.service := by
  let w : World Rehearsal :=
    .fresh (.ofAccount false) (.ofList []) { Rehearsal.initial with channel := varied }
  obtain ⟨-, -, hascii, -, -, hobject, -⟩ := written_json_is_read_back isPortable_varied
  obtain ⟨hvalid, hkeeps⟩ := hobject varied rfl (List.cons_ne_nil _ _)
  obtain ⟨channel, hchannel⟩ := exists_of_isOk (x := (Lookup.currentChannel Rehearsal.api w).1)
    (by decide +kernel)
  obtain ⟨v, hv⟩ : ∃ v, v = (Lookup.currentChannel Rehearsal.api w).2 := ⟨_, rfl⟩
  have hfirst : Lookup.currentChannel Rehearsal.api w = (.ok channel, v) := Prod.ext hchannel hv.symm
  obtain ⟨again, hagain⟩ := exists_of_isOk (x := (Lookup.currentChannel Rehearsal.api v).1)
    (by rw [hv]; decide +kernel)
  have hsecond : Lookup.currentChannel Rehearsal.api v = (.ok again, _) := Prod.ext hagain rfl
  have hkept : (v.state.transient Lookup.channelKey).1 ≠ .null := by
    rw [hv]
    decide +kernel
  obtain ⟨rfl, hlater⟩ := hkeeps _ Rehearsal.api w _ channel v rfl (by decide +kernel) rfl hfirst
  obtain ⟨rfl, hservice⟩ := hlater v rfl hkept again _ hsecond
  exact ⟨hascii, hvalid, v, _, hfirst, hsecond, hservice⟩

/-- A whole number with too many digits is kept out of a document. -/
theorem validateDocument_of_oversized {n : Int} (h : hasFewDigits n.natAbs = false) (name : Text) :
    validateDocument (.ofJson (.obj [(name, .int n)])) =
      .error (.validation (("The article JSON is invalid and cannot be published: " : Text) ++
        HostValue.oversizedNumber) (some .oversizedNumber)) := by
  have hwhole : (HostValue.ofJson (.int n)).toJson =
      .error (.oversizedNumber, HostValue.oversizedNumber) := by
    rw [HostValue.ofJson, HostValue.toJson, HostValue.writtenWhole, h, if_neg Bool.false_ne_true]
    rfl
  have hentries : HostValue.toEntries [(.text name, HostValue.ofJson (.int n))] =
      .error (.oversizedNumber, HostValue.oversizedNumber) := by
    rw [HostValue.toEntries_text_cons, hwhole]
    rfl
  rw [validateDocument, HostValue.ofJson, HostValue.toJson, HostValue.ofEntries,
    HostValue.ofEntries, hentries]
  rfl

/-- A document with a number of one digit too many is refused, and a channel with nothing in it is looked
up as if there were none. -/
theorem oversized_and_empty_are_not_read_back :
    (∃ e, validateDocument (.ofJson (.obj [("n", .int (10 ^ digitLimit : Nat))])) = .error e) ∧
      Lookup.readChannel (.str (Json.print .plainAscii (.obj []))) = .ok .null := by
  have hdigits : hasFewDigits (10 ^ digitLimit) = false := by
    have hlength := Nat.length_toDigits_le_iff (b := 10) (n := 10 ^ digitLimit) (k := digitLimit)
      (by decide) (by decide)
    rw [hasFewDigits, decide_eq_false_iff_not, hlength]
    exact Nat.lt_irrefl _
  refine ⟨⟨_, validateDocument_of_oversized ?_ "n"⟩, rfl⟩
  rw [Int.natAbs_natCast]
  exact hdigits

end ArticleExport
