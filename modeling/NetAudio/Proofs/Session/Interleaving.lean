import Mathlib.Data.List.Basic
import NetAudio.Proofs.Session.Site

/-!
# Sessions in any order

However the steps of the sessions at a site are mixed, each session sees its own steps and the
outcomes of what it sent.  What it sends is what its draft says at that moment, and what a daemon
holds under an id is what was accepted last.  Sessions that send to streams of their own leave the
same site in every order.
-/

set_option autoImplicit false

namespace NetAudio

section Sites
variable {ι : Type} {kinds : ι → StreamKind} [DecidableEq ι]

/-! ## What is sent -/

/-- An update that was sent is what the sender's draft says, and it is stored under the draft's id
unless a refusal is armed. -/
structure SiteEvent.Lands (event : SiteEvent kinds) (who : ι) (sent : StreamUpdate)
    (outcome : Except DaemonError Unit) : Prop where
  carries : StreamDraft.toUpdate (event.before.sessions who).form.draft = .ok sent
  accepted : event.before.daemon.refusal = none →
    outcome = .ok () ∧ ∃ record : (kinds who).Record, sent = (kinds who).update record ∧
      event.after.daemon = event.before.daemon.withRecord (kinds who) record ∧
      (event.after.daemon.table (kinds who)).get?
        (StreamDraft.id (event.before.sessions who).form.draft) = some record ∧
      (kinds who).read record = .ok (event.before.sessions who).form.draft
  refused : ∀ status body, event.before.daemon.refusal = some (status, body) →
    outcome = .error (.rejected status body) ∧
      event.after.daemon = { event.before.daemon with refusal := none }

def SiteEvent.stored? (kind : StreamKind) (id : UInt8) (event : SiteEvent kinds) :
    Option kind.Record :=
  match event.answer with
  | some (sent, .ok _) => sent.record? kind id
  | _ => none

section Moves
variable {before after : Site kinds} {step : SiteStep kinds} {answer : Option Delivery}

theorem delivery?_eq_some {event : SiteEvent kinds} {who : ι} {delivery : Delivery}
    (delivers : event.delivery? who = some delivery) :
    event.answer = some delivery ∧ ∃ own, event.step.of? who = some own := by
  obtain ⟨own, mine, answered⟩ := Option.bind_eq_some_iff.mp delivers
  exact ⟨answered, own, mine⟩

theorem lands_move (frozen : ∀ who, (before.sessions who).Frozen)
    (move : SiteMove before step answer after) (who : ι) (sent : StreamUpdate)
    (outcome : Except DaemonError Unit)
    (delivers : SiteEvent.delivery? who ⟨before, step, answer, after⟩ = some (sent, outcome)) :
    SiteEvent.Lands ⟨before, step, answer, after⟩ who sent outcome := by
  obtain ⟨answered, own, mine⟩ := delivery?_eq_some delivers
  cases move with
  | armed status body => cases answered
  | quiet other step silent => cases answered
  | stored other step sent sends clear =>
      cases answered
      obtain ⟨rfl, rfl⟩ := SiteStep.eq_of_of? mine
      have carries := (frozen other).carries sends
      obtain ⟨record, rfl, sameId, readBack⟩ := toUpdate_reads_back (kinds other) _ _ carries
      have stores := before.daemon.store_update (kinds other) record
      refine { carries, accepted := fun _ => ⟨rfl, record, rfl, stores, ?_, readBack⟩, refused := ?_ }
      · rw [← sameId, ← before.daemon.get?_withRecord (kinds other) record, ← stores]
        rfl
      · intro status body armed
        rw [clear] at armed
        cases armed
  | refused other step sent status body sends armed =>
      cases answered
      obtain ⟨rfl, rfl⟩ := SiteStep.eq_of_of? mine
      refine { carries := (frozen other).carries sends, accepted := ?_, refused := ?_ }
      · intro clear
        rw [armed] at clear
        cases clear
      · intro found text pending
        rw [armed] at pending
        cases pending
        exact ⟨rfl, rfl⟩

theorem move_stored? (move : SiteMove before step answer after) (kind : StreamKind)
    (id : UInt8) :
    (after.daemon.table kind).get? id =
      (SiteEvent.stored? kind id ⟨before, step, answer, after⟩).or
        ((before.daemon.table kind).get? id) := by
  cases move with
  | stored other step sent sends clear => exact before.daemon.get?_store sent kind id
  | _ => cases kind <;> rfl

end Moves

structure SiteFollows (opened : Site kinds) (events : List (SiteEvent kinds)) (site : Site kinds) :
    Prop where
  frozen : ∀ who, (site.sessions who).Frozen
  lands : ∀ event ∈ events, ∀ who sent outcome,
    event.delivery? who = some (sent, outcome) → event.Lands who sent outcome
  found : ∀ kind id, (site.daemon.table kind).get? id =
    (latest (SiteEvent.stored? kind id) events).or ((opened.daemon.table kind).get? id)

theorem siteFollows_move {opened before after : Site kinds} {events : List (SiteEvent kinds)}
    {step : SiteStep kinds} {answer : Option Delivery}
    (follows : SiteFollows opened events before) (move : SiteMove before step answer after) :
    SiteFollows opened (events ++ [⟨before, step, answer, after⟩]) after where
  frozen := frozen_move follows.frozen move
  lands := by
    rw [List.forall_mem_append]
    exact ⟨follows.lands, by simpa using lands_move follows.frozen move⟩
  found := by
    intro kind id
    rw [latest_concat, Option.or_assoc, ← follows.found]
    exact move_stored? move kind id

theorem siteFollows_afterRun (forms : (who : ι) → EditForm (kinds who).Draft) (daemon : Daemon)
    (steps : List (SiteStep kinds)) :
    SiteFollows (.opened forms daemon) ((Site.opened forms daemon).events steps)
      ((Site.opened forms daemon).afterRun steps) :=
  run_induction perform_site_moves (fun _ _ _ _ _ => siteFollows_move) steps [] _ {
    frozen := fun _ _ begun => nomatch begun
    lands := by simp
    found := fun _ _ => rfl }

/-! ## The order of what is sent -/

/-- No refusal is armed, before or between the steps. -/
structure Site.Calm (site : Site kinds) (steps : List (SiteStep kinds)) : Prop where
  clear : site.daemon.refusal = none
  unarmed : ∀ status body, .rejectNext status body ∉ steps

/-- No two sessions send to the same stream. -/
def Apart (events : List (SiteEvent kinds)) : Prop :=
  ∀ first second, first ≠ second → ∀ a ∈ sentBy first events, ∀ b ∈ sentBy second events,
    (a.kind, a.id) ≠ (b.kind, b.id)

def AllAccepted (events : List (SiteEvent kinds)) : Prop :=
  ∀ event ∈ events, ∀ sent outcome, event.answer = some (sent, outcome) → outcome = .ok ()

def Daemon.withoutStreams (daemon : Daemon) : Daemon :=
  { daemon with sources := .empty, sinks := .empty }

theorem Daemon.ext_streams {left right : Daemon}
    (rest : left.withoutStreams = right.withoutStreams)
    (tables : ∀ kind id, (left.table kind).get? id = (right.table kind).get? id) :
    left = right := by
  have sources : left.sources = right.sources := IdTable.ext_get? (tables .source)
  have sinks : left.sinks = right.sinks := IdTable.ext_get? (tables .sink)
  have whole (daemon : Daemon) : daemon =
      { daemon.withoutStreams with sources := daemon.sources, sinks := daemon.sinks } := rfl
  rw [whole left, whole right, rest, sources, sinks]

theorem calm_move {before after : Site kinds} {step : SiteStep kinds} {answer : Option Delivery}
    (clear : before.daemon.refusal = none) (unarmed : ∀ status body, step ≠ .rejectNext status body)
    (move : SiteMove before step answer after) :
    (∀ sent outcome, answer = some (sent, outcome) → outcome = .ok ()) ∧
      after.daemon.withoutStreams = before.daemon.withoutStreams := by
  cases move with
  | armed status body => exact absurd rfl (unarmed status body)
  | quiet who step silent => exact ⟨nofun, rfl⟩
  | stored who step sent sends _ =>
      refine ⟨?_, by cases sent <;> rfl⟩
      rintro _ outcome ⟨⟩
      rfl
  | refused who step sent status body sends armed =>
      rw [clear] at armed
      cases armed

theorem calm_run (steps : List (SiteStep kinds)) (site : Site kinds) (calm : site.Calm steps) :
    AllAccepted (site.events steps) ∧
      (site.afterRun steps).daemon.withoutStreams = site.daemon.withoutStreams := by
  induction steps generalizing site with
  | nil =>
      refine ⟨?_, rfl⟩
      intro event member
      cases member
  | cons step rest ih =>
      have move := perform_site_moves step site
      have unarmed (status : UInt16) (body : String) : step ≠ .rejectNext status body := by
        rintro rfl
        exact calm.unarmed status body (.head _)
      obtain ⟨accepted, kept⟩ := calm_move calm.clear unarmed move
      have later : (step.perform site).2.Calm rest := {
        clear := (congrArg Daemon.refusal kept).trans calm.clear
        unarmed := fun status body member => calm.unarmed status body (.tail _ member) }
      obtain ⟨acceptedLater, keptLater⟩ := ih _ later
      refine ⟨?_, keptLater.trans kept⟩
      intro event member
      rcases List.mem_cons.mp member with rfl | member
      · exact accepted
      · exact acceptedLater event member

/-- In a calm run each session does what it would do alone. -/
theorem replay_of_calm (steps : List (SiteStep kinds)) (site : Site kinds) (calm : site.Calm steps)
    (who : ι) :
    (site.sessions who).replay (steps.filterMap (SiteStep.of? who)) [] =
      ((site.afterRun steps).sessions who, sentBy who (site.events steps)) := by
  rw [← replay_own_steps]
  refine (Session.replay_of_accepted _ _ _ ?_).symm
  intro outcome told
  obtain ⟨⟨sent, _⟩, delivered, rfl⟩ := List.mem_map.mp told
  obtain ⟨event, member, delivers⟩ := List.mem_filterMap.mp delivered
  exact (calm_run steps site calm).1 event member sent _ (delivery?_eq_some delivers).1

theorem mem_sentBy {event : SiteEvent kinds} {events : List (SiteEvent kinds)} {who : ι}
    {sent : StreamUpdate} {outcome : Except DaemonError Unit} (member : event ∈ events)
    (delivers : event.delivery? who = some (sent, outcome)) : sent ∈ sentBy who events :=
  List.mem_map_of_mem (List.mem_filterMap.mpr ⟨event, member, delivers⟩)

section Senders
variable {site : Site kinds} {steps : List (SiteStep kinds)}

/-- What is delivered in a calm run was sent by one of the sessions, and is accepted. -/
theorem delivery_of_calm (calm : site.Calm steps) {event : SiteEvent kinds}
    (member : event ∈ site.events steps) :
    event.answer = none ∨ ∃ sender sent, event.answer = some (sent, .ok ()) ∧
      event.delivery? sender = event.answer ∧
      ∀ other, other ≠ sender → event.delivery? other = none := by
  obtain ⟨before, step, answer, after⟩ := event
  have move : SiteMove before step answer after :=
    events_of_moves perform_site_moves steps site _ member
  have accepted := (calm_run steps site calm).1 _ member
  cases move with
  | armed status body => exact .inl rfl
  | quiet who step silent => exact .inl rfl
  | stored who step sent sends clear =>
      refine .inr ⟨who, sent, rfl, ?_, ?_⟩
      · rw [SiteEvent.delivery?, SiteStep.of?_act_self]
        rfl
      · intro other distinct
        rw [SiteEvent.delivery?, SiteStep.of?_act_of_ne step (Ne.symm distinct)]
        rfl
  | refused who step sent status body sends armed => cases accepted _ _ rfl

/-- Where one session alone sends to a stream, its latest update to the stream is the latest of all. -/
theorem latest_stored_of_sender (calm : site.Calm steps) {kind : StreamKind} {id : UInt8} (who : ι)
    (others : ∀ other, other ≠ who → ∀ sent ∈ sentBy other (site.events steps),
      (sent.kind, sent.id) ≠ (kind, id)) :
    latest (SiteEvent.stored? kind id) (site.events steps) =
      ((sentBy who (site.events steps)).filterMap (StreamUpdate.record? kind id)).getLast? := by
  rw [latest, sentBy, List.filterMap_map, List.filterMap_filterMap]
  refine congrArg List.getLast? (List.filterMap_congr ?_)
  intro event member
  rcases delivery_of_calm calm member with silent | ⟨sender, sent, answered, delivered, alone⟩
  · rw [SiteEvent.stored?, SiteEvent.delivery?, silent]
    cases event.step.of? who <;> rfl
  · by_cases mine : who = sender
    · rw [SiteEvent.stored?, mine, delivered, answered]
      rfl
    · have elsewhere := others sender (Ne.symm mine) sent
        (mem_sentBy member (delivered.trans answered))
      rw [SiteEvent.stored?, alone who mine, answered]
      exact StreamUpdate.record?_of_ne elsewhere

theorem latest_stored_of_no_sender (calm : site.Calm steps) {kind : StreamKind} {id : UInt8}
    (nobody : ∀ who, ∀ sent ∈ sentBy who (site.events steps), (sent.kind, sent.id) ≠ (kind, id)) :
    latest (SiteEvent.stored? kind id) (site.events steps) = none := by
  rw [latest, List.getLast?_eq_none_iff, List.filterMap_eq_nil_iff]
  intro event member
  rcases delivery_of_calm calm member with silent | ⟨sender, sent, answered, delivered, -⟩
  · rw [SiteEvent.stored?, silent]
  · have elsewhere := nobody sender sent (mem_sentBy member (delivered.trans answered))
    rw [SiteEvent.stored?, answered]
    exact StreamUpdate.record?_of_ne elsewhere

theorem latest_stored_eq {other : List (SiteStep kinds)} (calm : site.Calm steps)
    (calmOther : site.Calm other)
    (same : ∀ who, sentBy who (site.events other) = sentBy who (site.events steps))
    (apart : Apart (site.events steps)) (kind : StreamKind) (id : UInt8) :
    latest (SiteEvent.stored? kind id) (site.events other) =
      latest (SiteEvent.stored? kind id) (site.events steps) := by
  by_cases someone : ∃ who, ∃ sent ∈ sentBy who (site.events steps), (sent.kind, sent.id) = (kind, id)
  · obtain ⟨who, sent, member, target⟩ := someone
    have others (also : ι) (distinct : also ≠ who) :
        ∀ sent ∈ sentBy also (site.events steps), (sent.kind, sent.id) ≠ (kind, id) :=
      fun copy copied => target ▸ apart also who distinct copy copied sent member
    have othersThere (also : ι) (distinct : also ≠ who) :
        ∀ sent ∈ sentBy also (site.events other), (sent.kind, sent.id) ≠ (kind, id) :=
      same also ▸ others also distinct
    rw [latest_stored_of_sender calm who others, latest_stored_of_sender calmOther who othersThere,
      same]
  · have nobody (who : ι) :
        ∀ sent ∈ sentBy who (site.events steps), (sent.kind, sent.id) ≠ (kind, id) :=
      fun sent member target => someone ⟨who, sent, member, target⟩
    have nobodyThere (who : ι) :
        ∀ sent ∈ sentBy who (site.events other), (sent.kind, sent.id) ≠ (kind, id) :=
      same who ▸ nobody who
    rw [latest_stored_of_no_sender calm nobody, latest_stored_of_no_sender calmOther nobodyThere]

end Senders

/-! ## Sessions and their site -/

structure SharesDaemon (opened : Site kinds) (steps : List (SiteStep kinds)) : Prop where
  /-- Alone with its own steps and with what it was told, a session comes to the same and sends the
  same. -/
  own : ∀ who, (opened.sessions who).replay (steps.filterMap (SiteStep.of? who))
      (toldTo who (opened.events steps)) =
    ((opened.afterRun steps).sessions who, sentBy who (opened.events steps))
  lands : ∀ event ∈ opened.events steps, ∀ who sent outcome,
    event.delivery? who = some (sent, outcome) → event.Lands who sent outcome
  last : ∀ kind id, ((opened.afterRun steps).daemon.table kind).get? id =
    (latest (SiteEvent.stored? kind id) (opened.events steps)).or
      ((opened.daemon.table kind).get? id)
  /-- Without refusals, and with each session at streams of its own, the order does not matter. -/
  order : opened.Calm steps → Apart (opened.events steps) →
    ∀ other : List (SiteStep kinds), opened.Calm other →
      (∀ who, other.filterMap (SiteStep.of? who) = steps.filterMap (SiteStep.of? who)) →
        opened.afterRun other = opened.afterRun steps

/-- Sessions that share a daemon, whatever their forms and in whatever order they act. -/
theorem sessions_share_daemon (forms : (who : ι) → EditForm (kinds who).Draft) (daemon : Daemon)
    (steps : List (SiteStep kinds)) : SharesDaemon (.opened forms daemon) steps := by
  have follows := siteFollows_afterRun forms daemon steps
  refine {
    own := fun who => replay_own_steps who steps _
    lands := follows.lands
    last := follows.found
    order := ?_ }
  intro calm apart other calmOther sameSteps
  -- Everything is accepted, so both runs let each session do what it would do alone.
  have alone (who : ι) :
      ((Site.opened forms daemon).afterRun other).sessions who =
          ((Site.opened forms daemon).afterRun steps).sessions who ∧
        sentBy who ((Site.opened forms daemon).events other) =
          sentBy who ((Site.opened forms daemon).events steps) := by
    have forth := replay_of_calm other (.opened forms daemon) calmOther who
    rw [sameSteps who, replay_of_calm steps _ calm who] at forth
    exact ⟨(congrArg Prod.fst forth).symm, (congrArg Prod.snd forth).symm⟩
  have found := (siteFollows_afterRun forms daemon other).found
  obtain ⟨-, kept⟩ := calm_run steps _ calm
  obtain ⟨-, keptOther⟩ := calm_run other _ calmOther
  refine Site.ext (funext fun who => (alone who).1) (Daemon.ext_streams ?_ ?_)
  · exact keptOther.trans kept.symm
  · intro kind id
    rw [follows.found, found,
      latest_stored_eq calm calmOther (fun who => (alone who).2) apart]

end Sites

/-- A source and a sink of the same id, submitted at the same time and one after the other. -/
theorem source_and_sink_in_either_order :
    let kinds : Bool → StreamKind := fun second => if second then .sink else .source
    let context : FormContext := ⟨⟨48000, 48, 1⟩, 1440⟩
    let forms : (who : Bool) → EditForm (kinds who).Draft := fun
      | false => .start .add (SourceDraft.withDefaults 1) context
      | true => .start .add { SinkDraft.withDefaults 1 "" with useSdp := true, sdp := "v=0" } context
    let site := Site.opened forms (Daemon.start .blank)
    let mixed : List (SiteStep kinds) := [
      .act false .beginSubmit, .act true (.edit (.setChannels 4) rfl), .act true .beginSubmit,
      .act false (.edit (.setChannels 8) rfl), .act true .send, .act false .send,
      .act false .finishSubmit, .act true .finishSubmit]
    let inTurn : List (SiteStep kinds) := [
      .act false .beginSubmit, .act false (.edit (.setChannels 8) rfl), .act false .send,
      .act false .finishSubmit, .act true (.edit (.setChannels 4) rfl), .act true .beginSubmit,
      .act true .send, .act true .finishSubmit]
    site.afterRun inTurn = site.afterRun mixed ∧
      ((site.afterRun mixed).sessions false).form.state = .submitted ∧
      ((site.afterRun mixed).sessions true).form.state = .submitted ∧
      ((site.afterRun mixed).daemon.sources.toList.map fun record => record.map.length) = [2] ∧
      ((site.afterRun mixed).daemon.sinks.toList.map fun record => record.map.length) = [4] := by
  refine ⟨?_, by decide +kernel, by decide +kernel, by decide +kernel, by decide +kernel⟩
  refine (sessions_share_daemon _ _ _).order ⟨rfl, by simp⟩ ?_ _ ⟨rfl, by simp⟩ ?_
  · unfold Apart
    decide +kernel
  · intro who
    cases who <;> rfl

end NetAudio
