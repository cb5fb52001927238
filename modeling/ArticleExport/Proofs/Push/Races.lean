import ArticleExport.Proofs.Push.Overlooking
import ArticleExport.Proofs.Push.Repetition
import ArticleExport.Proofs.Push.Stages
import Mathlib.Logic.Function.Basic

/-!
# Two pushes of one item

Two pushes of an item share the world and take turns.  Each of them looks up whether the item
is published before it creates an article, and notes the article only afterwards; the mark of
a push under way does not keep the other one out.  So a push creates an article at most once,
two pushes create two at most, and they do create two where both have looked before either has
created.  One that looks when the other has ended and the item is published creates none.

The calls are counted on a service that notes them, so a race is run with such a service.
-/

namespace ArticleExport

variable {σ : Type}

/-! ## Creations -/

/-- Whether a call is to create an article. -/
def ServiceCall.isCreate : ServiceCall → Bool
  | create _ _ _ _ _ => true
  | _ => false

/-- How many articles were to be created. -/
def World.creates (w : World (Noted σ)) : Nat :=
  w.service.calls.countP fun note => note.2.isCreate

namespace PushStage

/-- How many articles the next step is to create. -/
def creations : PushStage → Nat
  | creating _ _ => 1
  | _ => 0

/-- How many articles the push may still create. -/
def chances : PushStage → Nat
  | answered _ _ _ _ | closing _ _ | ended _ => 0
  | _ => 1

theorem chances_le_one (s : PushStage) : s.chances ≤ 1 := by
  cases s <;> simp [chances]

/-- The push has not yet looked up whether its item is published; it goes by the identifier
where it has one. -/
def AwaitsLook (label : Text) : PushStage → Prop
  | called => True
  | accepted c | opened c _ => c.label = label
  | prepared e => e.label = label
  | _ => False

theorem AwaitsLook.chances_eq {label : Text} {s : PushStage} (h : s.AwaitsLook label) :
    s.chances = 1 := by
  cases s with
  | called => rfl
  | accepted c => rfl
  | opened c room => rfl
  | prepared e => rfl
  | _ => exact h.elim

/-- The push does not create an article unless it is told that one is gone. -/
def Replaces : PushStage → Prop
  | asking _ _ | updating _ _ _ | answered _ _ _ _ | closing _ _ | ended _ => True
  | _ => False

end PushStage

namespace World

variable {w v : World (Noted σ)} {item : Text}

theorem creates_of_serves {calls : List ServiceCall} {change : StateStore → StateStore}
    (h : w.Serves item calls change v) :
    v.creates = w.creates + calls.countP ServiceCall.isCreate := by
  rw [creates, creates, h.calls, List.countP_append, List.countP_map]
  rfl

theorem creates_of_silent {change : StateStore → StateStore} (h : w.Serves item [] change v) :
    v.creates = w.creates :=
  creates_of_serves h

theorem creates_of_service_eq (h : v.service = w.service) : v.creates = w.creates := by
  rw [creates, creates, h]

end World

namespace PushSetup

variable {q : PushSetup (Noted σ)} {api : PublishingApi σ} {item id : Text}

/-- A step creates an article where the push is about to, and nowhere else. -/
theorem creates_step (hq : q.api = api.noted item) (s : PushStage) (w : World (Noted σ)) :
    (q.step id (s, w)).2.creates = w.creates + s.creations := by
  cases s with
  | called =>
      obtain ⟨change, o, v, haccept, -, hv⟩ := @accept_accepting σ q item id w
      rw [step, haccept]
      rcases o with f | ⟨r | c⟩
      all_goals exact World.creates_of_silent hv
  | accepted c =>
      rw [step, openWorkspace_apply]
      cases Workspace.create [] id <;> rfl
  | opened c room =>
      have hquiet := q.quiet_prepare room c w
      rw [step]
      rcases hprepare : q.prepare room c w with ⟨f | prepared, v⟩
      all_goals rw [hprepare] at hquiet
      · exact World.creates_of_service_eq hquiet.service
      · dsimp only
        cases q.overrideFailure? prepared.check with
        | some f => exact World.creates_of_service_eq hquiet.service
        | none =>
            dsimp only
            split
            · exact World.creates_of_service_eq hquiet.service
            · exact World.creates_of_service_eq hquiet.service
  | prepared e =>
      rw [step]
      split
      · rfl
      · rfl
  | asking e remoteId =>
      obtain ⟨current, v, hget, hv⟩ :=
        World.Serves.of_call item (.get remoteId) (api.get remoteId) w
      have hcall : Run.call (q.api.get remoteId) w = (current, v) := by
        rw [hq]
        exact hget
      rw [step, hcall]
      cases current with
      | error f => exact World.creates_of_serves hv
      | ok r =>
          dsimp only
          split
          · exact World.creates_of_serves hv
          · exact World.creates_of_serves hv
  | updating e remoteId revision =>
      obtain ⟨o, v, hupdate, hv⟩ := World.Serves.of_call item
        (e.prepared.shipment.updating remoteId revision)
        (api.update remoteId revision (.obj e.prepared.shipment.document)
          e.prepared.shipment.bundles e.prepared.shipment.metadata) w
      have hcall : Run.call (q.api.update remoteId revision (.obj e.prepared.shipment.document)
          e.prepared.shipment.bundles e.prepared.shipment.metadata) w = (o, v) := by
        rw [hq]
        exact hupdate
      rw [step, hcall]
      exact World.creates_of_serves hv
  | creating e cause =>
      obtain ⟨o, v, hcreate, hv⟩ := create_serves hq e.prepared.shipment w
      rw [step_creating hcreate]
      exact World.creates_of_serves hv
  | _ => rfl

theorem creates_le_of_leads (hq : q.api = api.noted item) {x y : PushStage × World (Noted σ)}
    (h : q.Leads id x y) : x.2.creates ≤ y.2.creates := by
  induction h with
  | refl => exact Nat.le_refl _
  | tail _ hstep ih =>
      rw [← hstep]
      exact ih.trans (creates_step hq _ _ ▸ Nat.le_add_right _ _)

/-- A push creates an article at most once. -/
theorem chances_step (p : PushSetup σ) (id : Text) (s : PushStage) (w : World σ) :
    (p.step id (s, w)).1.chances + s.creations ≤ s.chances := by
  cases s with
  | creating e cause =>
      rw [step]
      rcases p.create e.prepared.shipment w with ⟨f | r, v⟩
      · exact Nat.le_refl 1
      · exact Nat.le_refl 1
  | forgetting e cause => exact Nat.le_refl 1
  | answered e record status recreated => exact Nat.le_refl 0
  | closing room outcome => exact Nat.le_refl 0
  | ended outcome => exact Nat.le_refl 0
  | _ => exact PushStage.chances_le_one _

/-! ## A push that replaces -/

/-- The service never says that an article is gone. -/
structure NeverGone (api : PublishingApi σ) : Prop where
  get : ∀ remoteId s f, (api.get remoteId s).2 = .error f → f.missingArticle? = none
  update : ∀ remoteId revision document bundles metadata s f,
    (api.update remoteId revision document bundles metadata s).2 = .error f →
      f.missingArticle? = none

/-- The item is published, under the identifier that its content carries. -/
def IsPublished (id label : Text) (w : World σ) : Prop :=
  w.labelOf id = label ∧ (w.state.remoteState label).isPublished = true

theorem IsPublished.congr {label : Text} {w v : World σ} (h : IsPublished id label w)
    (hcontents : v.contents = w.contents) (hstate : w.state.SameButMarkers v.state) :
    IsPublished id label v := by
  constructor
  · rw [World.labelOf, World.content?, hcontents]
    exact h.1
  · rw [hstate.remoteState_eq]
    exact h.2

/-- The push replaces the article of its item, or will find out that there is one to replace. -/
def IsReplacing (id label : Text) (x : PushStage × World σ) : Prop :=
  x.1.AwaitsLook label ∧ IsPublished id label x.2 ∨ x.1.Replaces

theorem replaces_turnedDown {e : Errand} {f : Failure} (h : f.missingArticle? = none) :
    (e.turnedDown f).Replaces := by
  rw [Errand.turnedDown, h]
  trivial

theorem isReplacing_step (hq : q.api = api.noted item) (hgone : NeverGone api) {label : Text}
    {s : PushStage} {w : World (Noted σ)} (h : IsReplacing id label (s, w)) :
    IsReplacing id label (q.step id (s, w)) := by
  rcases h with ⟨hlook, hpublished⟩ | hreplaces
  · cases s with
    | called =>
        obtain ⟨change, o, v, haccept, haccepting, hv⟩ := @accept_accepting σ q item id w
        rw [step, haccept]
        rcases o with f | ⟨r | c⟩
        · exact .inr trivial
        · exact .inr trivial
        · left
          constructor
          · exact (World.labelOf_eq haccepting.content_eq).symm.trans hpublished.1
          · apply hpublished.congr hv.contents
            rw [hv.state]
            exact haccepting.sameButMarkers w.state
    | accepted c =>
        rw [step, openWorkspace_apply]
        cases Workspace.create [] id with
        | error f => exact .inr trivial
        | ok space => exact .inl ⟨hlook, hpublished.congr rfl (.refl _)⟩
    | opened c room =>
        have hquiet := q.quiet_prepare room c w
        rw [step]
        rcases hprepare : q.prepare room c w with ⟨f | prepared, v⟩
        · exact .inr trivial
        · rw [hprepare] at hquiet
          dsimp only
          cases q.overrideFailure? prepared.check with
          | some f => exact .inr trivial
          | none =>
              dsimp only
              split
              · exact .inr trivial
              · left
                constructor
                · exact hlook
                · apply hpublished.congr hquiet.contents
                  rw [hquiet.state]
                  exact .refl _
    | prepared e =>
        have hlabel : e.label = label := hlook
        rw [step, hlabel, hpublished.2]
        exact .inr trivial
    | _ => exact hlook.elim
  · right
    cases s with
    | asking e remoteId =>
        rw [step]
        rcases hget : Run.call (q.api.get remoteId) w with ⟨f | current, v⟩
        · apply replaces_turnedDown
          rw [hq] at hget
          exact hgone.get remoteId w.service.service f (congrArg Prod.fst hget)
        · dsimp only
          split
          · trivial
          · trivial
    | updating e remoteId revision =>
        rw [step]
        rcases hupdate : Run.call (q.api.update remoteId revision
          (.obj e.prepared.shipment.document) e.prepared.shipment.bundles
          e.prepared.shipment.metadata) w with ⟨f | record, v⟩
        · apply replaces_turnedDown
          rw [hq] at hupdate
          exact hgone.update _ _ _ _ _ w.service.service f (congrArg Prod.fst hupdate)
        · trivial
    | answered e record status recreated => trivial
    | closing room outcome => trivial
    | ended outcome => trivial
    | _ => exact hreplaces.elim

theorem creations_of_isReplacing {label : Text} {s : PushStage} {w : World σ}
    (h : IsReplacing id label (s, w)) : s.creations = 0 := by
  cases s with
  | creating e cause => rcases h with ⟨hlook, -⟩ | hreplaces <;> contradiction
  | _ => rfl

end PushSetup

/-! ## Races -/

/-- One of two pushes. -/
inductive Rival where
  /-- The one. -/
  | first
  /-- The other. -/
  | second
deriving DecidableEq

/-- The rival of a push. -/
def Rival.other : Rival → Rival
  | first => second
  | second => first

theorem Rival.other_other (who : Rival) : who.other.other = who := by
  cases who <;> rfl

/-- Two pushes of one item in one world. -/
structure Race (σ : Type) where
  /-- The world. -/
  world : World σ
  /-- How far each of the pushes has come. -/
  stage : Rival → PushStage

namespace Race

/-- The race in which both pushes have just been called. -/
def start (w : World σ) : Race σ := ⟨w, fun _ => .called⟩

/-- One of the pushes takes a step. -/
def turn (q : PushSetup σ) (id : Text) (r : Race σ) (who : Rival) : Race σ where
  world := (q.step id (r.stage who, r.world)).2
  stage := Function.update r.stage who (q.step id (r.stage who, r.world)).1

/-- The pushes take steps, in some order. -/
def run (q : PushSetup σ) (id : Text) (r : Race σ) (turns : List Rival) : Race σ :=
  turns.foldl (turn q id) r

/-- How many articles both pushes may still create. -/
def chances (r : Race σ) : Nat := (r.stage .first).chances + (r.stage .second).chances

variable {q : PushSetup (Noted σ)} {api : PublishingApi σ} {item id : Text}

theorem stage_turn_self (q : PushSetup σ) (id : Text) (r : Race σ) (who : Rival) :
    (r.turn q id who).stage who = (q.step id (r.stage who, r.world)).1 :=
  Function.update_self _ _ _

theorem stage_turn_other (q : PushSetup σ) (id : Text) (r : Race σ) (who : Rival) :
    (r.turn q id who).stage who.other = r.stage who.other := by
  apply Function.update_of_ne
  cases who <;> decide

theorem chances_eq (r : Race σ) (who : Rival) :
    r.chances = (r.stage who).chances + (r.stage who.other).chances := by
  cases who with
  | first => rfl
  | second => exact Nat.add_comm _ _

theorem creates_turn (hq : q.api = api.noted item) (id : Text) (r : Race (Noted σ)) (who : Rival) :
    (r.turn q id who).world.creates = r.world.creates + (r.stage who).creations :=
  PushSetup.creates_step hq (r.stage who) r.world

/-- What has been created and what may still be created do not become more. -/
theorem creates_add_chances_turn_le (hq : q.api = api.noted item) (id : Text)
    (r : Race (Noted σ)) (who : Rival) :
    (r.turn q id who).world.creates + (r.turn q id who).chances ≤ r.world.creates + r.chances := by
  have hchances := q.chances_step id (r.stage who) r.world
  rw [creates_turn hq, chances_eq r who, chances_eq (r.turn q id who) who, stage_turn_self,
    stage_turn_other]
  omega

theorem creates_add_chances_run_le (hq : q.api = api.noted item) (id : Text)
    (r : Race (Noted σ)) (turns : List Rival) :
    (r.run q id turns).world.creates + (r.run q id turns).chances ≤
      r.world.creates + r.chances := by
  induction turns generalizing r with
  | nil => exact Nat.le_refl _
  | cons who turns ih => exact (ih _).trans (creates_add_chances_turn_le hq id r who)

/-- However two pushes take turns, they create two articles at most. -/
theorem creates_le_two (p : PushSetup σ) (item id : Text) (w : World σ) (turns : List Rival) :
    ((start (w.noting [])).run (p.noted item) id turns).world.creates ≤ 2 := by
  have hbound := creates_add_chances_run_le (rfl : (p.noted item).api = p.api.noted item) id
    (start (w.noting [])) turns
  have hstart : (start (w.noting [])).world.creates + (start (w.noting [])).chances = 2 := rfl
  omega

/-- One of the pushes has ended, and the other one replaces what it may have created. -/
def IsOrderly (id label : Text) (r : Race σ) : Prop :=
  ∃ who outcome, r.stage who = .ended outcome ∧
    PushSetup.IsReplacing id label (r.stage who.other, r.world)

theorem eq_or_eq_other (who rival : Rival) : who = rival ∨ who = rival.other := by
  cases who <;> cases rival <;> decide

theorem isOrderly_turn (hq : q.api = api.noted item) (hgone : PushSetup.NeverGone api)
    {label : Text} {r : Race (Noted σ)} (h : r.IsOrderly id label) (who : Rival) :
    (r.turn q id who).IsOrderly id label ∧ (r.turn q id who).world.creates = r.world.creates := by
  obtain ⟨winner, outcome, hended, hreplacing⟩ := h
  have hcreates := creates_turn hq id r who
  rcases eq_or_eq_other who winner with rfl | rfl
  · have hstep : q.step id (r.stage who, r.world) = (.ended outcome, r.world) := by
      rw [hended, PushSetup.step_ended]
    have hworld : (r.turn q id who).world = r.world := congrArg Prod.snd hstep
    refine ⟨⟨who, outcome, ?_, ?_⟩, congrArg World.creates hworld⟩
    · rw [stage_turn_self, hstep]
    · rw [stage_turn_other, hworld]
      exact hreplacing
  · rw [PushSetup.creations_of_isReplacing hreplacing] at hcreates
    refine ⟨⟨winner, outcome, ?_, ?_⟩, hcreates⟩
    · have hwinner := stage_turn_other q id r winner.other
      rw [Rival.other_other] at hwinner
      rw [hwinner, hended]
    · rw [stage_turn_self]
      exact PushSetup.isReplacing_step hq hgone hreplacing

theorem creates_run_of_isOrderly (hq : q.api = api.noted item) (hgone : PushSetup.NeverGone api)
    {label : Text} {r : Race (Noted σ)} (h : r.IsOrderly id label) (turns : List Rival) :
    (r.run q id turns).world.creates = r.world.creates := by
  induction turns generalizing r with
  | nil => rfl
  | cons who turns ih =>
      obtain ⟨horderly, hcreates⟩ := isOrderly_turn hq hgone h who
      exact (ih horderly).trans hcreates

/-! ## Both create -/

theorem run_append (q : PushSetup σ) (id : Text) (r : Race σ) (turns turns' : List Rival) :
    r.run q id (turns ++ turns') = (r.run q id turns).run q id turns' :=
  List.foldl_append

/-- A push takes steps while the other one waits. -/
theorem run_replicate {q : PushSetup σ} {r : Race σ} {who : Rival} {n : ℕ} {s : PushStage}
    {v : World σ} (h : (q.step id)^[n] (r.stage who, r.world) = (s, v)) :
    r.run q id (List.replicate n who) = ⟨v, Function.update r.stage who s⟩ := by
  induction n generalizing r with
  | zero =>
      obtain ⟨rfl, rfl⟩ := Prod.mk.inj h
      rw [Function.update_eq_self]
      rfl
  | succ n ih =>
      have hrest :
          (q.step id)^[n] ((r.turn q id who).stage who, (r.turn q id who).world) = (s, v) := by
        rw [stage_turn_self]
        exact h
      change (r.turn q id who).run q id (List.replicate n who) = _
      rw [ih hrest]
      exact congrArg (Race.mk v) (Function.update_idem _ _ _)

end Race

namespace PushSetup

variable {p : PushSetup σ} {id : Text} {w v : World σ} {c : Content}

/-- An item that is not published can be prepared, and is not in sync. -/
structure Publishable (p : PushSetup σ) (id : Text) (w : World σ) (c : Content) : Prop where
  accepts : p.Accepts id w
  content : w.content? id = some c
  room : ∃ space, Workspace.create [] id = .ok space
  prepared : ∃ document result prepared, p.Preparable w c document result prepared ∧
    p.overrideFailure? prepared.check = none ∧ prepared.check.inSync p.override = false
  unpublished : (w.state.remoteState c.label).isPublished = false

/-- Markers make no difference to whether an item can be published. -/
theorem Publishable.congr (h : p.Publishable id w c) (hsettings : v.settings = w.settings)
    (hcontents : v.contents = w.contents) (hstate : w.state.SameButMarkers v.state)
    (hnames : ∀ names, v.state.nameFault? names = w.state.nameFault? names) :
    p.Publishable id v c := by
  have hcontent : v.content? id = w.content? id := by rw [World.content?, hcontents]; rfl
  constructor
  · obtain ⟨hreach, hconfigured, d, hd, hverdict⟩ := h.accepts
    refine ⟨(hnames _).trans hreach, ?_, d, hcontent.trans hd, ?_⟩
    · rw [hsettings]
      exact hconfigured
    · rw [hsettings]
      exact hverdict
  · exact hcontent.trans h.content
  · exact h.room
  · obtain ⟨document, result, prepared, hprepared, hcheck⟩ := h.prepared
    have hchecksum := hstate c.label _ StateStore.checksumKey_not_mem_markerKeys
    exact ⟨document, result, prepared, hprepared.congr hsettings (hnames _) hchecksum, hcheck⟩
  · rw [hstate.remoteState_eq]
    exact h.unpublished

theorem Publishable.noted (h : p.Publishable id w c) (item : Text) :
    (p.noted item).Publishable id (w.noting []) c := by
  obtain ⟨document, result, prepared, hprepared, hcheck⟩ := h.prepared
  have hnoted : (p.noted item).Preparable (w.noting []) c document result prepared :=
    ⟨hprepared.exported, hprepared.written, hprepared.shipped, hprepared.filtered,
      hprepared.reached, hprepared.checked⟩
  exact ⟨h.accepts, h.content, h.room, ⟨document, result, prepared, hnoted, hcheck⟩,
    h.unpublished⟩

/-- The first steps of a push that can be published lead to where it creates the article. All
that they change of the state is the mark of the push. -/
theorem Publishable.exists_creating (h : p.Publishable id w c) :
    ∃ e v, (p.step id)^[4] (.called, w) = (.creating e none, v) ∧ e.label = c.label ∧
      v.settings = w.settings ∧ v.contents = w.contents ∧ v.service = w.service ∧
        v.state = w.state.markInProgress id := by
  obtain ⟨document, result, prepared, hprepared, hoverride, hsync⟩ := h.prepared
  obtain ⟨space, hspace⟩ := h.room
  obtain ⟨u, hquiet, haccept⟩ := accept_of_accepts h.accepts h.content
  let marked : World σ := { u with state := u.state.markInProgress id }
  let room := Workspace.freshName id (Table.keys u.temporary)
  let opened : World σ := { marked with temporary := Table.set room space u.temporary }
  have hmarked : opened.state = w.state.markInProgress id :=
    congrArg (·.markInProgress id) hquiet.state
  have hmarkers : w.state.SameButMarkers opened.state := hmarked ▸ .of_markInProgress w.state id
  have hroom : Table.get? room opened.temporary = some space := by
    rw [Table.get?_set, if_pos rfl]
  have hnames : opened.state.nameFault? [c.label] = w.state.nameFault? [c.label] := by
    rw [hmarked]
    exact (StateStore.KeepsItems.set w.state id StateStore.inProgressKey _).nameFault _
  have hchecksum := hmarkers c.label _ StateStore.checksumKey_not_mem_markerKeys
  have hpreparable : p.Preparable opened c document result prepared :=
    hprepared.congr hquiet.settings hnames hchecksum
  have hprepare := hpreparable.prepare hroom (isPresent_of_create hspace)
  have hsame := p.quiet_prepare room c opened
  let ready := (p.prepare room c opened).2
  have hcalled : p.step id (.called, w) = (.accepted c, marked) := by
    rw [step, haccept]
  have haccepted : p.step id (.accepted c, marked) = (.opened c room, opened) := by
    rw [step, openWorkspace_apply, hspace]
  have hopened : p.step id (.opened c room, opened) =
      (.prepared ⟨c.label, room, prepared⟩, ready) := by
    rw [step, (Prod.ext hprepare rfl : p.prepare room c opened = (.ok prepared, ready))]
    dsimp only
    rw [hoverride, hsync]
    rfl
  have hlooked : p.step id (.prepared ⟨c.label, room, prepared⟩, ready) =
      (.creating ⟨c.label, room, prepared⟩ none, ready) := by
    have hunpublished : (ready.state.remoteState c.label).isPublished = false := by
      rw [hsame.state, hmarkers.remoteState_eq]
      exact h.unpublished
    rw [step, hunpublished]
    rfl
  refine ⟨⟨c.label, room, prepared⟩, ready, ?_, rfl, ?_, ?_, ?_, ?_⟩
  · change p.step id (p.step id (p.step id (p.step id (.called, w)))) = _
    rw [hcalled, haccepted, hopened, hlooked]
  · exact hsame.settings.trans hquiet.settings
  · exact hsame.contents.trans hquiet.contents
  · exact hsame.service.trans hquiet.service
  · exact hsame.state.trans hmarked

/-- An item that can be published is sent to be created, whatever comes of it. -/
theorem Publishable.exists_create (h : p.Publishable id w c) {scheduled : Bool}
    (hqueueing : w.isQueueing scheduled = false) :
    ∃ call ∈ p.calls id scheduled w, call.isCreate = true := by
  have hnoted : (w.noting []).isQueueing scheduled = false := hqueueing
  have hapi : (p.noted id).api = p.api.noted id := rfl
  obtain ⟨e, v, hcreating, -, -, -, hservice, -⟩ := (h.noted id).exists_creating
  have hrest := ((p.noted id).leads_push id (w.noting [])).iterate 4
  rw [hcreating] at hrest
  have hcreated : ((p.noted id).step id (.creating e none, v)).2.creates = 1 := by
    rw [creates_step hapi, World.creates_of_service_eq hservice]
    rfl
  have hone := creates_le_of_leads hapi (hrest.iterate 1)
  rw [Function.iterate_one, hcreated] at hone
  obtain ⟨note, hnote, hcreate⟩ := List.countP_pos_iff.mp hone
  refine ⟨note.2, ?_, hcreate⟩
  rw [PushSetup.calls, perform_of_pushing hnoted]
  exact List.mem_map_of_mem hnote

/-- Two pushes of an item that can be published can both create it: each of them comes to where
it creates the article before the other one has. -/
theorem Publishable.exists_two_creates (h : p.Publishable id w c) (item : Text) :
    ∃ turns, ((Race.start (w.noting [])).run (p.noted item) id turns).world.creates = 2 := by
  obtain ⟨e, v, hfirst, -, hsettings, hcontents, hservice, hstate⟩ := (h.noted item).exists_creating
  have hagain : (p.noted item).Publishable id v c := by
    apply (h.noted item).congr hsettings hcontents
    · rw [hstate]
      exact .of_markInProgress _ id
    · rw [hstate]
      exact (StateStore.KeepsItems.set _ id StateStore.inProgressKey _).nameFault
  obtain ⟨e', v', hsecond, -, -, -, hservice', -⟩ := hagain.exists_creating
  have hapi : (p.noted item).api = p.api.noted item := rfl
  let called : Race (Noted σ) := .start (w.noting [])
  let ahead : Race (Noted σ) := ⟨v, Function.update called.stage .first (.creating e none)⟩
  let level : Race (Noted σ) := ⟨v', Function.update ahead.stage .second (.creating e' none)⟩
  have hahead : called.run (p.noted item) id (List.replicate 4 .first) = ahead :=
    Race.run_replicate hfirst
  have hlevel : ahead.run (p.noted item) id (List.replicate 4 .second) = level :=
    Race.run_replicate hsecond
  have hnone : level.world.creates = 0 := by
    rw [World.creates_of_service_eq hservice', World.creates_of_service_eq hservice]
    rfl
  refine ⟨List.replicate 4 .first ++ List.replicate 4 .second ++ [.first, .second], ?_⟩
  rw [Race.run_append, Race.run_append, hahead, hlevel]
  change ((level.turn (p.noted item) id .first).turn (p.noted item) id .second).world.creates = 2
  rw [Race.creates_turn hapi, Race.creates_turn hapi, hnone]
  have hsecond_waits := Race.stage_turn_other (p.noted item) id level .first
  change (level.turn (p.noted item) id .first).stage .second = .creating e' none at hsecond_waits
  rw [hsecond_waits]
  rfl

/-- Where the service creates the article, the push has noted that its item is published when it
has ended. -/
theorem Publishable.exists_ended (h : p.Publishable id w c)
    (hcreates : ∀ document channel bundles metadata s, ∃ record : ArticleRecord,
      (p.api.create document channel bundles metadata s).2 = .ok record ∧ record.id ≠ []) :
    ∃ outcome v, (p.step id)^[7] (.called, w) = (.ended outcome, v) ∧ IsPublished id c.label v := by
  obtain ⟨e, u, hcreating, hlabel, -, hcontents, -, -⟩ := h.exists_creating
  obtain ⟨record, hrecord, hne⟩ := hcreates (.obj e.prepared.shipment.document)
    u.settings.apiChannel e.prepared.shipment.bundles e.prepared.shipment.metadata u.service
  let answered : World σ := { u with
    service := (p.api.create (.obj e.prepared.shipment.document) u.settings.apiChannel
      e.prepared.shipment.bundles e.prepared.shipment.metadata u.service).1 }
  have hcreate : p.create e.prepared.shipment u = (.ok record, answered) := Prod.ext hrecord rfl
  have hstep : p.step id (.creating e none, u) = (.answered e record .created false, answered) := by
    rw [step, hcreate]
    rfl
  have hended : (p.step id)^[7] (.called, w) =
      (p.step id)^[2] (p.step id (.creating e none, u)) := by
    rw [← hcreating]
    rfl
  rw [hstep] at hended
  refine ⟨_, _, hended, ?_, ?_⟩
  · have hcontent : answered.content? id = some c := by
      rw [World.content?, hcontents]
      exact h.content
    exact World.labelOf_eq hcontent
  · -- the record is noted before the markers are taken away
    let kept := (answered.state.saveRecord e.label record).setChecksum e.label
      e.prepared.check.fingerprint
    change ((kept.clearMarkers id).remoteState c.label).isPublished = true
    have hid : kept.get c.label StateStore.remoteIdKey = .str record.id := by
      rw [← hlabel]
      exact (StateStore.get_set_of_key_ne _ (by decide) _ _ _).trans
        (StateStore.get_saveRecord_remoteIdKey _ _ _)
    rw [(StateStore.SameButMarkers.of_clearMarkers kept id).remoteState_eq]
    have htruthy : (Json.str record.id).isTruthy = true := by
      simpa [Json.isTruthy] using hne
    rw [RemoteState.isPublished, StateStore.remoteState, StateStore.getOrEmpty, hid, if_pos htruthy]
    exact htruthy

/-! ## What pushes in flight do to each other -/

/-- A push makes the same calls whether or not another push of the item is marked as under way,
and so an item that can be published is created despite such a mark.  Two pushes of an item
create two articles at most, in whatever order they take their steps; they do create two in
some order, where the item can be published.  Where one of them looks whether the item is
published when the other one has ended and has left it published, they create one at most. -/
theorem pushes_in_flight (p : PushSetup σ) (id : Text) (w : World σ) :
    (∀ scheduled item, p.calls id scheduled { w with state := w.state.clearInProgress item } =
      p.calls id scheduled w) ∧
    (∀ turns, ((Race.start (w.noting [])).run (p.noted id) id turns).world.creates ≤ 2) ∧
    (∀ c, p.Publishable id w c →
      (∀ scheduled, w.isQueueing scheduled = false →
        ∃ call ∈ p.calls id scheduled w, call.isCreate = true) ∧
      ∃ turns, ((Race.start (w.noting [])).run (p.noted id) id turns).world.creates = 2) ∧
    (NeverGone p.api → ∀ turns turns' who outcome label,
      ((Race.start (w.noting [])).run (p.noted id) id turns).stage who = .ended outcome →
      (((Race.start (w.noting [])).run (p.noted id) id turns).stage who.other).AwaitsLook label →
      IsPublished id label ((Race.start (w.noting [])).run (p.noted id) id turns).world →
      ((Race.start (w.noting [])).run (p.noted id) id (turns ++ turns')).world.creates ≤ 1) := by
  have hapi : (p.noted id).api = p.api.noted id := rfl
  refine ⟨?_, ?_, ?_, ?_⟩
  · intro scheduled item
    exact (calls_eq_of_sameButProgress (.of_clearInProgress w item)).symm
  · intro turns
    exact Race.creates_le_two p id id w turns
  · intro c h
    exact ⟨fun scheduled hqueueing => h.exists_create hqueueing, h.exists_two_creates id⟩
  · intro hgone turns turns' who outcome label hended hlook hpublished
    have hbound := Race.creates_add_chances_run_le hapi id (Race.start (w.noting [])) turns
    have hkept := Race.creates_run_of_isOrderly hapi hgone
      ⟨who, outcome, hended, .inl ⟨hlook, hpublished⟩⟩ turns'
    have hchances : ((Race.start (w.noting [])).run (p.noted id) id turns).chances = 1 := by
      rw [Race.chances_eq _ who, hended, hlook.chances_eq]
      rfl
    have hstart :
        (Race.start (w.noting [])).world.creates + (Race.start (w.noting [])).chances = 2 :=
      rfl
    rw [Race.run_append, hkept]
    omega

theorem publishable_bulletin : newsroom.Publishable "7" (newsWorld bulletin) bulletin := by
  obtain ⟨document, result, prepared, hprepared⟩ := exists_preparable_bulletin
  have hstored : prepared.check.stored = none := hprepared.prepares.stored
  have hsync : prepared.check.inSync newsroom.override = false := by
    change isInSync prepared.check.stored prepared.check.fingerprint = false
    rw [hstored]
    rfl
  exact ⟨⟨rfl, rfl, bulletin, rfl, rfl⟩, rfl, ⟨_, rfl⟩, ⟨document, result, prepared, hprepared, rfl,
    hsync⟩, rfl⟩

/-- A service that has one article, and knows no failures. -/
def steadyApi : PublishingApi Unit where
  create _ _ _ _ s := (s, .ok ⟨"r", "1", none, none, none⟩)
  update _ _ _ _ _ s := (s, .ok ⟨"r", "1", none, none, none⟩)
  get _ s := (s, .ok ⟨"r", "1", none, none, none⟩)
  channel _ s := (s, .ok [])

theorem neverGone_steadyApi : NeverGone steadyApi :=
  ⟨nofun, nofun⟩

/-- The setup of a host whose service knows no failures. -/
def steadyNewsroom : PushSetup Unit := { ofApi steadyApi with variants := Variant.standard }

/-- The world of the item, with that service. -/
def steadyWorld : World Unit := (newsWorld bulletin).withService ⟨⟩

theorem publishable_steadyWorld : steadyNewsroom.Publishable "7" steadyWorld bulletin := by
  obtain ⟨document, result, prepared, hprepared, hcheck⟩ := publishable_bulletin.prepared
  have hsteady : steadyNewsroom.Preparable steadyWorld bulletin document result prepared :=
    ⟨hprepared.exported, hprepared.written, hprepared.shipped, hprepared.filtered,
      hprepared.reached, hprepared.checked⟩
  exact ⟨⟨rfl, rfl, bulletin, rfl, rfl⟩, rfl, ⟨_, rfl⟩,
    ⟨document, result, prepared, hsteady, hcheck⟩, rfl⟩

/-- Two pushes of an item create it twice in some order, and once where the second one begins
when the first one has ended. -/
theorem pushes_in_flight_of_bulletin :
    (∃ turns, ((Race.start (steadyWorld.noting [])).run (steadyNewsroom.noted "7") "7"
      turns).world.creates = 2) ∧
    ∀ turns, ((Race.start (steadyWorld.noting [])).run (steadyNewsroom.noted "7") "7"
      (List.replicate 7 .first ++ turns)).world.creates ≤ 1 := by
  obtain ⟨-, -, hcreates, horderly⟩ := pushes_in_flight steadyNewsroom "7" steadyWorld
  obtain ⟨outcome, v, hended, hpublished⟩ :=
    (publishable_steadyWorld.noted "7").exists_ended fun _ _ _ _ _ => ⟨_, rfl, by decide⟩
  have hfirst : (Race.start (steadyWorld.noting [])).run (steadyNewsroom.noted "7") "7"
      (List.replicate 7 .first) = _ :=
    Race.run_replicate hended
  refine ⟨(hcreates _ publishable_steadyWorld).2, fun turns => ?_⟩
  apply horderly neverGone_steadyApi (List.replicate 7 .first) turns .first outcome bulletin.label
  · rw [hfirst]
    rfl
  · rw [hfirst]
    trivial
  · rw [hfirst]
    exact hpublished

/-- An item that is marked as under way is created, and two pushes of an item create it twice. -/
theorem creates_despite_mark :
    ((newsWorld bulletin).state.markInProgress "7").isInProgress "7" = true ∧
    (∃ call ∈ newsroom.calls "7" false
        { newsWorld bulletin with state := (newsWorld bulletin).state.markInProgress "7" },
      call.isCreate = true) ∧
    ∃ turns, ((Race.start ((newsWorld bulletin).noting [])).run (newsroom.noted "7") "7"
      turns).world.creates = 2 := by
  have hmarked : newsroom.Publishable "7"
      { newsWorld bulletin with state := (newsWorld bulletin).state.markInProgress "7" } bulletin :=
    publishable_bulletin.congr rfl rfl (.of_markInProgress _ _)
      (StateStore.KeepsItems.set _ _ _ _).nameFault
  exact ⟨by decide, hmarked.exists_create rfl, publishable_bulletin.exists_two_creates "7"⟩

end PushSetup

end ArticleExport
