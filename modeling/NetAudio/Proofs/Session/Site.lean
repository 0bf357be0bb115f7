import Mathlib.Logic.Function.Basic
import NetAudio.Proofs.Session.Submit

/-!
# Sessions that share a daemon

Several sessions, each with a form of its own, use one daemon.  A submit takes three steps: the form
gives its update, the update is sent, and the form is told the outcome.  The steps of the sessions
come in any order, and between them the daemon may be made to refuse the next write.

`replay_own_steps` is what keeps sessions apart: each is a replay of its own steps with the outcomes
that it was told, and nothing else of what happens at the site reaches it.
-/

set_option autoImplicit false

namespace NetAudio

def FormStep.isEdit {kind : StreamKind} : FormStep kind → Bool
  | .beginSubmit | .finishSubmit _ => false
  | _ => true

inductive Exchange where
  | idle
  | begun (sent : StreamUpdate)
  | answered (outcome : Except DaemonError Unit)

structure Session (kind : StreamKind) where
  form : EditForm kind.Draft
  exchange : Exchange

inductive SessionStep (kind : StreamKind) where
  | edit (step : FormStep kind) (edits : step.isEdit = true)
  | beginSubmit
  | send
  | finishSubmit

namespace Session
variable {kind : StreamKind}

def sends? (session : Session kind) : SessionStep kind → Option StreamUpdate
  | .send =>
      match session.exchange with
      | .begun sent => some sent
      | _ => none
  | _ => none

/-- What a step that sends nothing makes of a session. -/
def advance (session : Session kind) : SessionStep kind → Session kind
  | .edit step _ => { session with form := (step.perform session.form).2 }
  | .beginSubmit =>
      match carryOut EditForm.beginSubmit session.form with
      | (.ok sent, form) => ⟨form, .begun sent⟩
      | (.error _, form) => { session with form }
  | .send => session
  | .finishSubmit =>
      match session.exchange with
      | .answered outcome => ⟨(carryOut (EditForm.finishSubmit outcome) session.form).2, .idle⟩
      | _ => session

def receive (session : Session kind) (outcome : Except DaemonError Unit) : Session kind :=
  { session with exchange := .answered outcome }

/-- A session on its own, told these outcomes in turn, with what it sends.  Where they run out, it is
told that what it sent was accepted. -/
def replay (session : Session kind) :
    List (SessionStep kind) → List (Except DaemonError Unit) → Session kind × List StreamUpdate
  | [], _ => (session, [])
  | step :: rest, outcomes =>
      match session.sends? step with
      | none => (session.advance step).replay rest outcomes
      | some sent =>
          let (last, later) :=
            (session.receive (outcomes.headD (.ok ()))).replay rest outcomes.tail
          (last, sent :: later)

def Frozen (session : Session kind) : Prop :=
  ∀ sent, session.exchange = .begun sent →
    session.form.state = .submitting ∧ StreamDraft.toUpdate session.form.draft = .ok sent

theorem perform_edit_of_submitting {form : EditForm kind.Draft} {step : FormStep kind}
    (edits : step.isEdit = true) (submitting : form.state = .submitting) :
    (step.perform form).2 = form := by
  have move := perform_moves step form
  generalize (step.perform form).1 = answer, (step.perform form).2 = after at move ⊢
  cases move with
  | kept _ _ failure => rfl
  | edited _ draft editing sameId => rw [submitting] at editing; cases editing
  | begun sent editing valid carries => cases edits
  | accepted _ => cases edits
  | returned cause _ => cases edits

theorem Frozen.advance {session : Session kind} (frozen : session.Frozen)
    (step : SessionStep kind) : (session.advance step).Frozen := by
  cases step with
  | edit step edits =>
      intro sent begun
      obtain ⟨submitting, carries⟩ := frozen sent begun
      rw [Session.advance, perform_edit_of_submitting edits submitting]
      exact ⟨submitting, carries⟩
  | beginSubmit =>
      have move := perform_moves .beginSubmit session.form
      rw [FormStep.perform] at move
      rw [Session.advance]
      generalize carryOut EditForm.beginSubmit session.form = begun at move ⊢
      obtain ⟨_ | sent, form⟩ := begun
      · cases move
        exact frozen
      · cases move with
        | kept _ _ failure => cases failure
        | begun _ editing valid carries =>
            intro sent begun
            cases begun
            exact ⟨rfl, carries⟩
  | send => exact frozen
  | finishSubmit =>
      rw [Session.advance]
      split
      · intro sent begun
        cases begun
      · exact frozen

theorem Frozen.carries {session : Session kind} {step : SessionStep kind} {sent : StreamUpdate}
    (frozen : session.Frozen) (sends : session.sends? step = some sent) :
    StreamDraft.toUpdate session.form.draft = .ok sent := by
  cases step with
  | send =>
      rw [sends?] at sends
      split at sends
      · next begun =>
          cases sends
          exact (frozen sent begun).2
      · cases sends
  | _ => cases sends

theorem frozen_receive (session : Session kind) (outcome : Except DaemonError Unit) :
    (session.receive outcome).Frozen := by
  intro sent begun
  cases begun

theorem replay_of_accepted (steps : List (SessionStep kind)) (session : Session kind)
    (outcomes : List (Except DaemonError Unit)) (accepted : ∀ outcome ∈ outcomes, outcome = .ok ()) :
    session.replay steps outcomes = session.replay steps [] := by
  induction steps generalizing session outcomes with
  | nil => rfl
  | cons step rest ih =>
      rw [replay, replay]
      cases session.sends? step with
      | none => exact ih _ outcomes accepted
      | some sent =>
          cases outcomes with
          | nil => rfl
          | cons outcome later =>
              obtain ⟨rfl, laterAccepted⟩ := List.forall_mem_cons.mp accepted
              simp only [List.headD_cons, List.tail_cons, List.headD_nil, List.tail_nil,
                ih _ later laterAccepted]

end Session

/-! ## Sites -/

section Sites
variable {ι : Type} {kinds : ι → StreamKind}

/-- The sessions of a site, each with the kind of its streams, and the daemon that they share. -/
@[ext]
structure Site (kinds : ι → StreamKind) where
  sessions : (who : ι) → Session (kinds who)
  daemon : Daemon

inductive SiteStep (kinds : ι → StreamKind) where
  | act (who : ι) (step : SessionStep (kinds who))
  | rejectNext (status : UInt16) (body : String)

abbrev Delivery := StreamUpdate × Except DaemonError Unit

/-- Sessions with nothing under way, whatever their forms are. -/
def Site.opened (forms : (who : ι) → EditForm (kinds who).Draft) (daemon : Daemon) :
    Site kinds where
  sessions who := ⟨forms who, .idle⟩
  daemon := daemon

variable [DecidableEq ι]

def Site.withSession (site : Site kinds) (who : ι) (session : Session (kinds who)) :
    Site kinds :=
  { site with sessions := Function.update site.sessions who session }

@[simp] theorem Site.sessions_withSession_self (site : Site kinds) (who : ι)
    (session : Session (kinds who)) : (site.withSession who session).sessions who = session := by
  simp only [withSession, Function.update_self]

theorem Site.sessions_withSession_of_ne (site : Site kinds) {who other : ι}
    (session : Session (kinds other)) (distinct : other ≠ who) :
    (site.withSession other session).sessions who = site.sessions who := by
  simp only [withSession, Function.update_of_ne (Ne.symm distinct)]

def SiteStep.perform (step : SiteStep kinds) (site : Site kinds) :
    Option Delivery × Site kinds :=
  match step with
  | .act who step =>
      match (site.sessions who).sends? step with
      | none => (none, site.withSession who ((site.sessions who).advance step))
      | some sent =>
          let (outcome, daemon) := (Daemon.send sent).run site.daemon
          (some (sent, outcome),
            { site with daemon }.withSession who ((site.sessions who).receive outcome))
  | .rejectNext status body => (none, { site with daemon := site.daemon.rejectNext status body })

abbrev SiteEvent (kinds : ι → StreamKind) := Event (SiteStep kinds) (Option Delivery) (Site kinds)

namespace Site

def events (site : Site kinds) (steps : List (SiteStep kinds)) : List (SiteEvent kinds) :=
  eventsOf SiteStep.perform site steps

def afterRun (site : Site kinds) (steps : List (SiteStep kinds)) : Site kinds :=
  stateAfter SiteStep.perform site steps

end Site

def SiteStep.of? (who : ι) : SiteStep kinds → Option (SessionStep (kinds who))
  | .act other step => if same : other = who then some (same ▸ step) else none
  | .rejectNext _ _ => none

@[simp] theorem SiteStep.of?_act_self (who : ι) (step : SessionStep (kinds who)) :
    (SiteStep.act who step).of? who = some step := by
  simp [of?]

theorem SiteStep.of?_act_of_ne {who other : ι} (step : SessionStep (kinds other))
    (distinct : other ≠ who) : (SiteStep.act other step).of? who = none := by
  simp [of?, distinct]

theorem SiteStep.eq_of_of? {who other : ι} {step : SessionStep (kinds other)}
    {own : SessionStep (kinds who)} (mine : (SiteStep.act other step).of? who = some own) :
    ∃ same : other = who, same ▸ step = own := by
  rw [of?] at mine
  split at mine
  · next same => exact ⟨same, Option.some.inj mine⟩
  · cases mine

def SiteEvent.delivery? (who : ι) (event : SiteEvent kinds) : Option Delivery :=
  (event.step.of? who).bind fun _ => event.answer

def sentBy (who : ι) (events : List (SiteEvent kinds)) : List StreamUpdate :=
  (events.filterMap (SiteEvent.delivery? who)).map Prod.fst

def toldTo (who : ι) (events : List (SiteEvent kinds)) : List (Except DaemonError Unit) :=
  (events.filterMap (SiteEvent.delivery? who)).map Prod.snd

/-! ## Moves -/

inductive SiteMove (site : Site kinds) :
    SiteStep kinds → Option Delivery → Site kinds → Prop where
  | armed (status : UInt16) (body : String) :
      SiteMove site (.rejectNext status body) none
        { site with daemon := site.daemon.rejectNext status body }
  | quiet (who : ι) (step : SessionStep (kinds who))
      (silent : (site.sessions who).sends? step = none) :
      SiteMove site (.act who step) none
        (site.withSession who ((site.sessions who).advance step))
  | stored (who : ι) (step : SessionStep (kinds who)) (sent : StreamUpdate)
      (sends : (site.sessions who).sends? step = some sent) (clear : site.daemon.refusal = none) :
      SiteMove site (.act who step) (some (sent, .ok ()))
        ({ site with daemon := site.daemon.store sent }.withSession who
          ((site.sessions who).receive (.ok ())))
  | refused (who : ι) (step : SessionStep (kinds who)) (sent : StreamUpdate) (status : UInt16)
      (body : String) (sends : (site.sessions who).sends? step = some sent)
      (armed : site.daemon.refusal = some (status, body)) :
      SiteMove site (.act who step) (some (sent, .error (.rejected status body)))
        ({ site with daemon := { site.daemon with refusal := none } }.withSession who
          ((site.sessions who).receive (.error (.rejected status body))))

theorem perform_site_moves (step : SiteStep kinds) (site : Site kinds) :
    SiteMove site step (step.perform site).1 (step.perform site).2 := by
  cases step with
  | rejectNext status body => exact .armed status body
  | act who step =>
      cases sends : (site.sessions who).sends? step with
      | none =>
          simp only [SiteStep.perform, sends]
          exact .quiet who step sends
      | some sent =>
          cases pending : site.daemon.refusal with
          | none =>
              simp only [SiteStep.perform, sends, site.daemon.send_eq_store sent pending]
              exact .stored who step sent sends pending
          | some refusal =>
              obtain ⟨status, body⟩ := refusal
              simp only [SiteStep.perform, sends, site.daemon.send_of_refusal sent pending]
              exact .refused who step sent status body sends pending

/-! ## What a session sees -/

theorem sessions_of_others {site after : Site kinds} {step : SiteStep kinds}
    {answer : Option Delivery} {who : ι} (move : SiteMove site step answer after)
    (others : step.of? who = none) : after.sessions who = site.sessions who := by
  cases move with
  | armed status body => rfl
  | quiet other step _ | stored other step _ _ _ | refused other step _ _ _ _ _ =>
      have distinct : other ≠ who := by
        rintro rfl
        rw [SiteStep.of?_act_self] at others
        cases others
      exact site.sessions_withSession_of_ne _ distinct

theorem session_of_own {site after : Site kinds} {step : SiteStep kinds}
    {answer : Option Delivery} {who : ι} {own : SessionStep (kinds who)}
    (move : SiteMove site step answer after) (mine : step.of? who = some own) :
    ((site.sessions who).sends? own = none ∧ answer = none ∧
        after.sessions who = (site.sessions who).advance own) ∨
      ∃ sent outcome, (site.sessions who).sends? own = some sent ∧
        answer = some (sent, outcome) ∧ after.sessions who = (site.sessions who).receive outcome := by
  cases move with
  | armed status body => cases mine
  | quiet other step silent =>
      obtain ⟨rfl, rfl⟩ := SiteStep.eq_of_of? mine
      exact .inl ⟨silent, rfl, site.sessions_withSession_self ..⟩
  | stored other step sent sends clear =>
      obtain ⟨rfl, rfl⟩ := SiteStep.eq_of_of? mine
      exact .inr ⟨_, _, sends, rfl, site.sessions_withSession_self ..⟩
  | refused other step sent status body sends armed =>
      obtain ⟨rfl, rfl⟩ := SiteStep.eq_of_of? mine
      exact .inr ⟨_, _, sends, rfl, site.sessions_withSession_self ..⟩

theorem replay_own_steps (who : ι) (steps : List (SiteStep kinds)) (site : Site kinds) :
    (site.sessions who).replay (steps.filterMap (SiteStep.of? who))
        (toldTo who (site.events steps)) =
      ((site.afterRun steps).sessions who, sentBy who (site.events steps)) := by
  -- A step of another leaves the session, and a step of its own is the next one of its replay.
  induction steps generalizing site with
  | nil => rfl
  | cons step rest ih =>
      have move := perform_site_moves step site
      have later := ih (step.perform site).2
      simp only [Site.events, Site.afterRun, eventsOf, stateAfter, toldTo, sentBy, eventOf,
        List.filterMap_cons, SiteEvent.delivery?] at later ⊢
      cases own : step.of? who with
      | none =>
          rw [sessions_of_others move own] at later
          simpa [own] using later
      | some mine =>
          rcases session_of_own move own with
            ⟨silent, answered, advanced⟩ | ⟨sent, outcome, sends, answered, received⟩
          · rw [advanced] at later
            simpa [own, answered, Session.replay, silent] using later
          · rw [received] at later
            simp [answered, Session.replay, sends, later]

theorem frozen_move {before after : Site kinds} {step : SiteStep kinds}
    {answer : Option Delivery} (frozen : ∀ who, (before.sessions who).Frozen)
    (move : SiteMove before step answer after) : ∀ who, (after.sessions who).Frozen := by
  intro who
  cases own : step.of? who with
  | none =>
      rw [sessions_of_others move own]
      exact frozen who
  | some mine =>
      rcases session_of_own move own with ⟨-, -, advanced⟩ | ⟨sent, outcome, -, -, received⟩
      · rw [advanced]
        exact (frozen who).advance mine
      · rw [received]
        exact (before.sessions who).frozen_receive outcome

/-! ## Submits -/

theorem Site.withSession_withSession (site : Site kinds) (who : ι)
    (first second : Session (kinds who)) :
    (site.withSession who first).withSession who second = site.withSession who second := by
  simp only [withSession, Function.update_idem]

theorem after_quiet (site : Site kinds) {who : ι} (session : Session (kinds who))
    (step : SessionStep (kinds who)) (silent : session.sends? step = none) :
    ((SiteStep.act who step).perform (site.withSession who session)).2 =
      site.withSession who (session.advance step) := by
  simp only [SiteStep.perform, Site.sessions_withSession_self, silent,
    Site.withSession_withSession]

theorem after_send (site : Site kinds) {who : ι} (form : EditForm (kinds who).Draft)
    (sent : StreamUpdate) :
    let told := (Daemon.send sent).run site.daemon
    ((SiteStep.act who .send).perform (site.withSession who ⟨form, .begun sent⟩)).2 =
      { site with daemon := told.2 }.withSession who ⟨form, .answered told.1⟩ := by
  simp only [SiteStep.perform, Site.sessions_withSession_self, Session.sends?, Session.receive]
  simp only [Site.withSession, Function.update_idem]
  rfl

/-- Its three steps, one after another, are a submit. -/
theorem submit_in_steps (site : Site kinds) (who : ι) (form : EditForm (kinds who).Draft) :
    let submitted := (form.submit Daemon.send).run site.daemon
    (site.withSession who ⟨form, .idle⟩).afterRun
        [.act who .beginSubmit, .act who .send, .act who .finishSubmit] =
      { site with daemon := submitted.2 }.withSession who ⟨submitted.1.2, .idle⟩ := by
  simp only [Site.afterRun, stateAfter]
  rw [after_quiet site ⟨form, .idle⟩ .beginSubmit rfl]
  cases begun : EditForm.beginSubmit.run form with
  | error cause kept =>
      have stays : Session.advance ⟨form, .idle⟩ .beginSubmit = ⟨kept, .idle⟩ := by
        simp only [Session.advance, carryOut, begun]
      have failed : (form.submit Daemon.send).run site.daemon =
          ((.error cause, kept), site.daemon) := by
        simp only [EditForm.submit, begun]
        rfl
      rw [stays, after_quiet site ⟨kept, .idle⟩ .send rfl, failed]
      exact after_quiet site ⟨kept, .idle⟩ .finishSubmit rfl
  | ok sent waiting =>
      have waits : Session.advance ⟨form, .idle⟩ .beginSubmit = ⟨waiting, .begun sent⟩ := by
        simp only [Session.advance, carryOut, begun]
      rw [waits, after_send, after_quiet _ ⟨waiting, .answered _⟩ .finishSubmit rfl]
      rcases answered : (Daemon.send sent).run site.daemon with ⟨outcome, daemon⟩
      have ended : (form.submit Daemon.send).run site.daemon =
          let finished := carryOut (EditForm.finishSubmit outcome) waiting
          ((finished.1.mapError .form, finished.2), daemon) := by
        simp only [EditForm.submit, begun, StateT.run_bind, answered]
        simp only [bind, carryOut]
        cases (EditForm.finishSubmit outcome).run waiting <;> rfl
      rw [ended]
      rfl

end Sites

end NetAudio
