import NetAudio.Proofs.Daemon.Streams

/-!
# Daemons and their histories

What a daemon holds and what it will refuse can be read off the steps that led to it.  Under each id
stands the record that was put there last and not deleted since, and a write is refused exactly if a
refusal was armed after the write before it.
-/

set_option autoImplicit false

namespace NetAudio

/-- The id under which a call changes the streams of a kind, and the record that it puts there; a
delete puts none. -/
def DaemonCall.change? : (kind : StreamKind) → DaemonCall → Option (UInt8 × Option kind.Record)
  | .source, .putSource record => some (record.id, some record)
  | .source, .deleteSource id => some (id, none)
  | .sink, .putSink record => some (record.id, some record)
  | .sink, .deleteSink id => some (id, none)
  | _, _ => none

def DaemonCall.delete : StreamKind → UInt8 → DaemonCall
  | .source, id => .deleteSource id
  | .sink, id => .deleteSink id

def DaemonStep.Changes (step : DaemonStep) (kind : StreamKind) : Prop :=
  ∃ asked, step = .call asked ∧ asked.change? kind ≠ none

abbrev DaemonEvent := Event DaemonStep (Except DaemonError DaemonReply) Daemon

namespace DaemonEvent

def isRefused (event : DaemonEvent) : Bool :=
  match event.answer with
  | .error (.rejected _ _) => true
  | _ => false

/-- What an event leaves under an id among the streams of a kind, if it changes anything there.  A
write that is refused changes nothing. -/
def change? (kind : StreamKind) (id : UInt8) (event : DaemonEvent) : Option (Option kind.Record) :=
  match event.step with
  | .call asked =>
      if event.isRefused then none
      else (asked.change? kind).bind fun (key, record) => if key = id then some record else none
  | _ => none

/-- The refusal that an event leaves for the next write: one is armed, or a write spends what was
armed. -/
def refusal? (event : DaemonEvent) : Option (Option (UInt16 × String)) :=
  match event.step with
  | .rejectNext status body => some (some (status, body))
  | .call asked => if asked.isWrite then some none else none
  | _ => none

end DaemonEvent

namespace Daemon

def events (daemon : Daemon) (steps : List DaemonStep) : List DaemonEvent :=
  eventsOf DaemonStep.perform daemon steps

/-! ## Moves -/

section Moves
variable {daemon after : Daemon} {step : DaemonStep} {answer : Except DaemonError DaemonReply}

theorem change?_of_read (call : DaemonCall) (reads : call.isWrite = false) (kind : StreamKind) :
    call.change? kind = none := by
  cases kind <;> cases call <;> first | rfl | cases reads

theorem getD_change {α : Type} (key id : UInt8) (change found : Option α) :
    (if key = id then some change else none).getD found = if id = key then change else found := by
  by_cases here : key = id
  · rw [if_pos here, if_pos here.symm, Option.getD_some]
  · rw [if_neg here, if_neg (Ne.symm here), Option.getD_none]

/-- A move keeps the streams of a kind, or makes the change that its call asks for. -/
theorem move_table_cases (move : DaemonMove daemon step answer after) (kind : StreamKind) :
    (after.table kind = daemon.table kind ∧
        ∀ id, DaemonEvent.change? kind id ⟨daemon, step, answer, after⟩ = none) ∨
      ∃ asked key change, step = .call asked ∧ asked.change? kind = some (key, change) ∧
        DaemonEvent.isRefused ⟨daemon, step, answer, after⟩ = false ∧
        after.table kind = (daemon.table kind).changed key change := by
  have erased {α : Type} {table : IdTable α} {key : UInt8} (missing : table.contains key = false) :
      table = table.changed key none := by
    have absent : table.get? key = none := by simpa [IdTable.contains] using missing
    exact (IdTable.erase_of_get?_eq_none absent).symm
  cases move with
  | read call result reads answered =>
      exact .inl ⟨rfl, fun id => by simp [DaemonEvent.change?, change?_of_read call reads kind]⟩
  | putSource record clear =>
      cases kind with
      | source => exact .inr ⟨_, _, some record, rfl, rfl, rfl, rfl⟩
      | sink => exact .inl ⟨rfl, fun _ => rfl⟩
  | putSink record clear =>
      cases kind with
      | source => exact .inl ⟨rfl, fun _ => rfl⟩
      | sink => exact .inr ⟨_, _, some record, rfl, rfl, rfl, rfl⟩
  | deleteSource key clear found =>
      cases kind with
      | source => exact .inr ⟨_, key, none, rfl, rfl, rfl, rfl⟩
      | sink => exact .inl ⟨rfl, fun _ => rfl⟩
  | deleteSink key clear found =>
      cases kind with
      | source => exact .inl ⟨rfl, fun _ => rfl⟩
      | sink => exact .inr ⟨_, key, none, rfl, rfl, rfl, rfl⟩
  | missingSource key clear missing =>
      cases kind with
      | source => exact .inr ⟨_, key, none, rfl, rfl, rfl, erased missing⟩
      | sink => exact .inl ⟨rfl, fun _ => rfl⟩
  | missingSink key clear missing =>
      cases kind with
      | source => exact .inl ⟨rfl, fun _ => rfl⟩
      | sink => exact .inr ⟨_, key, none, rfl, rfl, rfl, erased missing⟩
  | _ => cases kind <;> exact .inl ⟨rfl, fun _ => rfl⟩

theorem move_change? (move : DaemonMove daemon step answer after) (kind : StreamKind)
    (id : UInt8) :
    (after.table kind).get? id =
      (DaemonEvent.change? kind id ⟨daemon, step, answer, after⟩).getD
        ((daemon.table kind).get? id) := by
  rcases move_table_cases move kind with
    ⟨same, silent⟩ | ⟨asked, key, change, rfl, asks, taken, changed⟩
  · rw [same, silent, Option.getD_none]
  · rw [changed, IdTable.get?_changed, DaemonEvent.change?]
    simp only [taken, asks, Option.bind_some]
    exact (getD_change key id change _).symm

theorem move_refusal? (move : DaemonMove daemon step answer after) :
    after.refusal =
      (DaemonEvent.refusal? ⟨daemon, step, answer, after⟩).getD daemon.refusal := by
  cases move with
  | read call result reads answered => simp [DaemonEvent.refusal?, reads]
  | refused call status body writes armed => simp [DaemonEvent.refusal?, writes]
  | setSettings _ clear | setPtpSettings _ clear | putSource _ clear | putSink _ clear => exact clear
  | deleteSource _ clear _ | missingSource _ clear _ => exact clear
  | deleteSink _ clear _ | missingSink _ clear _ => exact clear
  | _ => rfl

/-- Only puts and deletes of a kind change the streams of the kind. -/
theorem move_table (move : DaemonMove daemon step answer after) (kind : StreamKind)
    (keeps : ¬ step.Changes kind) : after.table kind = daemon.table kind := by
  rcases move_table_cases move kind with ⟨same, -⟩ | ⟨asked, key, change, call, asks, -, -⟩
  · exact same
  · have changes : step.Changes kind := ⟨asked, call, by rw [asks]; exact Option.some_ne_none _⟩
    exact absurd changes keeps

end Moves

/-! ## Runs -/

structure Follows (opened : Daemon) (events : List DaemonEvent) (daemon : Daemon) : Prop where
  found : ∀ kind id, (daemon.table kind).get? id =
    (latest (DaemonEvent.change? kind id) events).getD ((opened.table kind).get? id)
  refusal : daemon.refusal = (latest DaemonEvent.refusal? events).getD opened.refusal
  separate : ∀ event ∈ events, ∀ kind, ¬ event.step.Changes kind →
    event.after.table kind = event.before.table kind

theorem follows_move {opened before after : Daemon} {events : List DaemonEvent}
    {step : DaemonStep} {answer : Except DaemonError DaemonReply}
    (follows : Follows opened events before) (move : DaemonMove before step answer after) :
    Follows opened (events ++ [⟨before, step, answer, after⟩]) after where
  found := by
    intro kind id
    rw [latest_concat, Option.getD_or, ← follows.found]
    exact move_change? move kind id
  refusal := by
    rw [latest_concat, Option.getD_or, ← follows.refusal]
    exact move_refusal? move
  separate := by
    rw [List.forall_mem_append]
    exact ⟨follows.separate, by simpa using move_table move⟩

theorem follows_afterRun (opened : Daemon) (steps : List DaemonStep) :
    Follows opened (opened.events steps) (opened.afterRun steps) :=
  run_induction perform_daemon_moves (fun _ _ _ _ _ => follows_move) steps [] opened {
    found := fun _ _ => rfl
    refusal := rfl
    separate := by simp }

/-! ## Refusals and puts -/

section Answers
variable {daemon : Daemon}

theorem carryOut_write_ne_rejected (call : DaemonCall) (writes : call.isWrite = true)
    (clear : daemon.refusal = none) (status : UInt16) (body : String) :
    (carryOut (answer call) daemon).1 ≠ .error (.rejected status body) := by
  intro refused
  have move := write_moves call writes daemon clear
  rw [refused] at move
  generalize (carryOut (answer call) daemon).2 = after at move
  cases move with
  | read _ _ reads _ => rw [writes] at reads; cases reads
  | refused _ _ _ _ armed => rw [clear] at armed; cases armed

theorem carryOut_write_eq_rejected_iff (call : DaemonCall) (writes : call.isWrite = true)
    (status : UInt16) (body : String) :
    (carryOut (answer call) daemon).1 = .error (.rejected status body) ↔
      daemon.refusal = some (status, body) := by
  cases pending : daemon.refusal with
  | none =>
      refine iff_of_false (carryOut_write_ne_rejected call writes pending status body) ?_
      exact (Option.some_ne_none _).symm
  | some refusal =>
      obtain ⟨armedStatus, armedBody⟩ := refusal
      rw [carryOut_write_of_refusal call writes pending]
      simp

theorem withRecord_comm (daemon : Daemon) {first second : StreamKind} (a : first.Record)
    (b : second.Record)
    (distinct : (first, first.recordId a) ≠ (second, second.recordId b)) :
    (daemon.withRecord first a).withRecord second b =
      (daemon.withRecord second b).withRecord first a := by
  have ids (same : first = second) : (first.update a).id ≠ (second.update b).id :=
    fun equal => distinct (Prod.ext same equal)
  cases first with
  | source =>
      cases second with
      | source =>
          exact congrArg (fun sources => { daemon with sources })
            (daemon.sources.insert_comm (ids rfl) a b)
      | sink => rfl
  | sink =>
      cases second with
      | source => rfl
      | sink =>
          exact congrArg (fun sinks => { daemon with sinks })
            (daemon.sinks.insert_comm (ids rfl) a b)

/-- Two puts after one another, with nothing armed. -/
theorem puts_of_clear (clear : daemon.refusal = none) {first second : StreamKind}
    (a : first.Record) (b : second.Record) :
    let puts : List DaemonStep := [.call (first.update a).call, .call (second.update b).call]
    (daemon.events puts).map Event.answer = [.ok .done, .ok .done] ∧
      daemon.afterRun puts = (daemon.withRecord first a).withRecord second b := by
  have still : (daemon.withRecord first a).refusal = none := by rw [refusal_withRecord, clear]
  constructor
  · simp only [events, eventsOf, eventOf, DaemonStep.perform, daemon.carryOut_put first a clear,
      carryOut_put _ second b still, List.map_cons, List.map_nil]
  · simp only [afterRun, stateAfter, DaemonStep.perform, daemon.carryOut_put first a clear,
      carryOut_put _ second b still]

end Answers

/-! ## Two maps and a refusal -/

/-- A daemon after some events, as two maps from ids to records and a refusal for the next write. -/
structure RefinesMaps (events : List DaemonEvent) (daemon : Daemon) : Prop where
  listing : ∀ kind : StreamKind, ∃ records,
    carryOut (answer (.listing kind)) daemon = (.ok (.listed kind records), daemon) ∧
      (records.map kind.recordId).Pairwise (· < ·) ∧
      ∀ id record, (record ∈ records ∧ kind.recordId record = id) ↔
        latest (DaemonEvent.change? kind id) events = some (some record)
  streams : ∃ sources sinks,
    carryOut (answer .sources) daemon = (.ok (.sources sources), daemon) ∧
      carryOut (answer .sinks) daemon = (.ok (.sinks sinks), daemon) ∧
      carryOut (answer .streams) daemon = (.ok (.streams ⟨sources, sinks⟩), daemon)
  separate : ∀ event ∈ events, ∀ kind, ¬ event.step.Changes kind →
    event.after.table kind = event.before.table kind
  refused : ∀ call, call.isWrite = true → ∀ status body,
    (carryOut (answer call) daemon).1 = .error (.rejected status body) ↔
      latest DaemonEvent.refusal? events = some (some (status, body))
  /-- A refusal also answers the delete of a stream that is not there, and is spent by it. -/
  missing : ∀ kind id, (daemon.table kind).get? id = none → ∀ status body,
    latest DaemonEvent.refusal? events = some (some (status, body)) →
      carryOut (answer (.delete kind id)) daemon =
        (.error (.rejected status body), { daemon with refusal := none })
  reads : ∀ call, call.isWrite = false → (carryOut (answer call) daemon).2 = daemon
  commute : daemon.refusal = none → ∀ (first second : StreamKind) (a : first.Record)
    (b : second.Record), (first, first.recordId a) ≠ (second, second.recordId b) →
      let puts : List DaemonStep := [.call (first.update a).call, .call (second.update b).call]
      (daemon.events puts).map Event.answer = [.ok .done, .ok .done] ∧
        (daemon.events puts.reverse).map Event.answer = [.ok .done, .ok .done] ∧
        daemon.afterRun puts = daemon.afterRun puts.reverse

theorem getD_none_eq_some {α : Type} {change : Option (Option α)} {record : α} :
    change.getD none = some record ↔ change = some (some record) := by
  cases change <;> simp

theorem get?_table_start (settings : DaemonSettings) (kind : StreamKind) (id : UInt8) :
    ((start settings).table kind).get? id = none := by
  cases kind <;> rfl

theorem listed_iff {opened daemon : Daemon} {events : List DaemonEvent}
    (follows : Follows opened events daemon) (keyed : daemon.Keyed)
    (fresh : ∀ kind id, (opened.table kind).get? id = none) (kind : StreamKind) (id : UInt8)
    (record : kind.Record) :
    (record ∈ (daemon.table kind).toList ∧ kind.recordId record = id) ↔
      latest (DaemonEvent.change? kind id) events = some (some record) := by
  rw [← getD_none_eq_some, ← fresh kind id, ← follows.found kind id]
  exact (keyed kind).mem_toList_and_holds_iff id record

/-- After every run a daemon is what its history says: last puts win, and an armed refusal answers the
next write, whichever it is. -/
theorem run_refines_maps (settings : DaemonSettings) (history : List DaemonStep) :
    RefinesMaps ((start settings).events history) ((start settings).afterRun history) := by
  have follows := follows_afterRun (start settings) history
  have keyed := keyed_afterRun settings history
  have armed (status : UInt16) (body : String) :
      ((start settings).afterRun history).refusal = some (status, body) ↔
        latest DaemonEvent.refusal? ((start settings).events history) =
          some (some (status, body)) := by
    rw [follows.refusal]
    exact getD_none_eq_some
  exact {
    listing := fun kind => ⟨_, carryOut_listing _ kind, (keyed kind).ascending_toList,
      listed_iff follows keyed (get?_table_start settings) kind⟩
    streams := ⟨_, _, rfl, rfl, rfl⟩
    separate := follows.separate
    refused := by
      intro call writes status body
      rw [← armed]
      exact carryOut_write_eq_rejected_iff call writes status body
    missing := by
      intro kind id _ status body pending
      have writes : (DaemonCall.delete kind id).isWrite = true := by cases kind <;> rfl
      exact carryOut_write_of_refusal _ writes ((armed status body).mpr pending)
    reads := by
      intro call reads
      obtain ⟨_, answered⟩ := @carryOut_read ((start settings).afterRun history) call reads
      rw [answered]
    commute := by
      intro clear first second a b distinct
      have forth := puts_of_clear clear a b
      have back := puts_of_clear clear b a
      exact ⟨forth.1, back.1, by
        rw [forth.2, withRecord_comm _ a b distinct]
        exact back.2.symm⟩ }

end Daemon

end NetAudio
