import NetAudio.Proofs.Daemon.History

/-!
# The status of a sink and the sink

The status that is stored for a sink and the sink itself stand in tables of their own.  A status is set
whether or not there is such a sink, and it is told only while there is one; a delete of the sink takes it
along, unless the delete is refused.  So what is told of a sink is the status set last, or a blank one
if the sink was deleted since, and only a step for that sink changes it.
-/

set_option autoImplicit false

namespace NetAudio

def DaemonStep.sink? : DaemonStep → Option UInt8
  | .setSinkStatus id _ => some id
  | .call (.putSink record) => some record.id
  | .call (.deleteSink id) => some id
  | _ => none

/-- What an event leaves of the status stored for a sink, if it changes anything there.  A delete takes the
status along also where it finds no sink. -/
def DaemonEvent.status? (id : UInt8) (event : DaemonEvent) : Option (Option SinkStatus) :=
  match event.step with
  | .setSinkStatus key status => if key = id then some (some status) else none
  | .call (.deleteSink key) =>
      if event.isRefused then none else if key = id then some none else none
  | _ => none

namespace Daemon

def told (daemon : Daemon) (id : UInt8) : Except DaemonError DaemonReply :=
  (carryOut (answer (.sinkStatus id)) daemon).1

theorem told_eq (daemon : Daemon) (id : UInt8) :
    daemon.told id =
      if daemon.sinks.contains id then
        .ok (.sinkStatus ((daemon.sinkStatus.get? id).getD .blank))
      else
        .error (.notFound (DaemonCall.sinkStatus id).path) := by
  cases found : daemon.sinks.contains id with
  | true => simp [told, answer, statusOfSink, found]
  | false => simp [told, answer, statusOfSink, DaemonCall.path, found]

theorem told_eq_ok_iff (daemon : Daemon) (id : UInt8) (status : SinkStatus) :
    daemon.told id = .ok (.sinkStatus status) ↔
      daemon.sinks.contains id = true ∧ (daemon.sinkStatus.get? id).getD .blank = status := by
  rw [told_eq]
  cases daemon.sinks.contains id with
  | true => simp
  | false => simp

/-- The same is told of a sink that is in both tables as before. -/
theorem told_congr {daemon after : Daemon} {id : UInt8}
    (sinks : after.sinks.contains id = daemon.sinks.contains id)
    (status : after.sinkStatus.get? id = daemon.sinkStatus.get? id) :
    after.told id = daemon.told id := by
  rw [told_eq, told_eq, sinks, status]

/-! ## Moves -/

section Moves
variable {daemon after : Daemon} {step : DaemonStep} {answer : Except DaemonError DaemonReply}

theorem status?_of_read {call : DaemonCall} (reads : call.isWrite = false) (id : UInt8)
    (result : Except DaemonError DaemonReply) (before after : Daemon) :
    DaemonEvent.status? id ⟨before, .call call, result, after⟩ = none := by
  cases call <;> first | rfl | cases reads

theorem status?_of_refused (call : DaemonCall) (id : UInt8) (status : UInt16) (body : String)
    (before after : Daemon) :
    DaemonEvent.status? id ⟨before, .call call, .error (.rejected status body), after⟩ = none := by
  cases call <;> rfl

theorem move_status? (move : DaemonMove daemon step answer after) (id : UInt8) :
    after.sinkStatus.get? id =
      (DaemonEvent.status? id ⟨daemon, step, answer, after⟩).getD (daemon.sinkStatus.get? id) := by
  cases move with
  | read call result reads answered => rw [status?_of_read reads, Option.getD_none]
  | refused call status body writes armed => rw [status?_of_refused, Option.getD_none]
  | deleteSink key clear found =>
      rw [IdTable.get?_erase]
      exact (getD_change key id none _).symm
  | missingSink key clear missing =>
      rw [IdTable.get?_erase]
      exact (getD_change key id none _).symm
  | setSinkStatus key status =>
      rw [IdTable.get?_insert]
      exact (getD_change key id (some status) _).symm
  | _ => rfl

/-- What an event leaves of the status of a sink: one is set, or it goes with a delete of the sink. -/
theorem status?_eq_some {event : DaemonEvent} {id : UInt8} {change : Option SinkStatus}
    (changed : event.status? id = some change) :
    (∃ status, event.step = .setSinkStatus id status ∧ change = some status) ∨
      (event.step = .call (.deleteSink id) ∧ change = none) := by
  rw [DaemonEvent.status?] at changed
  split at changed
  · next key status set =>
      obtain ⟨same, left⟩ := Option.ite_none_right_eq_some.mp changed
      rw [same] at set
      exact .inl ⟨status, set, (Option.some.inj left).symm⟩
  · next key deleted =>
      obtain ⟨-, taken⟩ := Option.ite_none_left_eq_some.mp changed
      obtain ⟨same, left⟩ := Option.ite_none_right_eq_some.mp taken
      rw [same] at deleted
      exact .inr ⟨deleted, (Option.some.inj left).symm⟩
  · cases changed

/-- A move that changes nothing of a sink in either table changes nothing of what is told of it. -/
theorem told_move (move : DaemonMove daemon step answer after) {id : UInt8}
    (sink : DaemonEvent.change? .sink id ⟨daemon, step, answer, after⟩ = none)
    (status : DaemonEvent.status? id ⟨daemon, step, answer, after⟩ = none) :
    after.told id = daemon.told id := by
  have found := move_change? move .sink id
  have stored := move_status? move id
  rw [sink, Option.getD_none] at found
  rw [status, Option.getD_none] at stored
  exact told_congr (congrArg Option.isSome found) stored

theorem silent_of_elsewhere {id : UInt8} (elsewhere : step.sink? ≠ some id) :
    DaemonEvent.change? .sink id ⟨daemon, step, answer, after⟩ = none ∧
      DaemonEvent.status? id ⟨daemon, step, answer, after⟩ = none := by
  have other {key : UInt8} (named : step.sink? = some key) : key ≠ id :=
    fun same => elsewhere (same ▸ named)
  cases step with
  | setSinkStatus key status => exact ⟨rfl, if_neg (other rfl)⟩
  | call asked =>
      cases asked with
      | putSink record => simp [DaemonEvent.change?, DaemonCall.change?, other rfl, DaemonEvent.status?]
      | deleteSink key => simp [DaemonEvent.change?, DaemonCall.change?, other rfl, DaemonEvent.status?]
      | _ => exact ⟨by simp [DaemonEvent.change?, DaemonCall.change?], rfl⟩
  | _ => exact ⟨rfl, rfl⟩

theorem silent_of_refused (asked : DaemonCall) (id : UInt8) (status : UInt16) (body : String) :
    DaemonEvent.change? .sink id
        ⟨daemon, .call asked, .error (.rejected status body), after⟩ = none ∧
      DaemonEvent.status? id ⟨daemon, .call asked, .error (.rejected status body), after⟩ = none :=
  ⟨rfl, status?_of_refused asked id status body daemon after⟩

/-- A put in the place of a sink changes nothing of what is told of it. -/
theorem told_of_replaced {record : Sink}
    (move : DaemonMove daemon (.call (.putSink record)) answer after)
    (found : daemon.sinks.contains record.id = true) : after.told record.id = daemon.told record.id := by
  cases move with
  | read call result reads answered => cases reads
  | refused call status body writes armed => exact told_congr rfl rfl
  | putSink record clear =>
      refine told_congr ?_ rfl
      rw [found, IdTable.contains, IdTable.get?_insert, if_pos rfl]
      rfl

end Moves

/-! ## Runs -/

section Runs
variable {daemon : Daemon} {id : UInt8}

/-- The status stored for a sink is the one that the latest event leaves that changes it. -/
theorem stored_afterRun (opened : Daemon) (steps : List DaemonStep) (id : UInt8) :
    (opened.afterRun steps).sinkStatus.get? id =
      (latest (DaemonEvent.status? id) (opened.events steps)).getD (opened.sinkStatus.get? id) := by
  refine @run_induction _ _ _ DaemonStep.perform _ perform_daemon_moves
    (fun events daemon => daemon.sinkStatus.get? id =
      (latest (DaemonEvent.status? id) events).getD (opened.sinkStatus.get? id)) ?_ steps [] opened rfl
  intro events before step answer after follows move
  rw [latest_concat, Option.getD_or, ← follows]
  exact move_status? move id

/-- A run in which no status is set keeps what was stored, unless the sink is deleted in it. -/
theorem stored_of_unset (steps : List DaemonStep)
    (unset : ∀ status, DaemonStep.setSinkStatus id status ∉ steps) :
    (daemon.afterRun steps).sinkStatus.get? id = daemon.sinkStatus.get? id ∨
      (DaemonStep.call (.deleteSink id) ∈ steps ∧
        (daemon.afterRun steps).sinkStatus.get? id = none) := by
  rw [stored_afterRun]
  cases change : latest (DaemonEvent.status? id) (daemon.events steps) with
  | none => exact .inl rfl
  | some left =>
      obtain ⟨event, member, changes⟩ := exists_of_latest change
      have carried := step_mem_of_event member
      rcases status?_eq_some changes with ⟨status, set, -⟩ | ⟨deleted, gone⟩
      · rw [set] at carried
        exact absurd carried (unset status)
      · rw [deleted] at carried
        exact .inr ⟨carried, gone⟩

theorem stored_of_deleted (deleted : ((DaemonStep.call (.deleteSink id)).perform daemon).1 = .ok .done) :
    ((DaemonStep.call (.deleteSink id)).perform daemon).2.sinkStatus.get? id = none := by
  have move := perform_daemon_moves (.call (.deleteSink id)) daemon
  rw [deleted] at move
  rw [move_status? move id]
  simp [DaemonEvent.status?, DaemonEvent.isRefused]

end Runs

/-! ## A status and its sink -/

structure StatusFollowsSink (events : List DaemonEvent) (daemon : Daemon) (id : UInt8) : Prop where
  present : (∃ status, daemon.told id = .ok (.sinkStatus status)) ↔
    ∃ sink ∈ daemon.sinks.toList, sink.id = id
  missing : (¬ ∃ sink ∈ daemon.sinks.toList, sink.id = id) ↔
    daemon.told id = .error (.notFound s!"/sink/status/{id.toNat}")
  /-- The status that the history says: the one set last, unless a delete came since. -/
  history : ∀ status, daemon.told id = .ok (.sinkStatus status) →
    status = ((latest (DaemonEvent.status? id) events).getD none).getD .blank
  deleted : ((DaemonStep.call (.deleteSink id)).perform daemon).1 = .ok .done →
    ∀ later, (∀ status, DaemonStep.setSinkStatus id status ∉ later) →
      ∀ status, (daemon.afterRun (.call (.deleteSink id) :: later)).told id =
        .ok (.sinkStatus status) → status = .blank
  set : ∀ status later, (∀ other, DaemonStep.setSinkStatus id other ∉ later) →
    DaemonStep.call (.deleteSink id) ∉ later →
      ∀ shown, (daemon.afterRun (.setSinkStatus id status :: later)).told id =
        .ok (.sinkStatus shown) → shown = status
  replaced : ∀ record : Sink, record.id = id → (∃ sink ∈ daemon.sinks.toList, sink.id = id) →
    ((DaemonStep.call (.putSink record)).perform daemon).2.told id = daemon.told id
  /-- Sources, settings and other sinks are no matter. -/
  elsewhere : ∀ step : DaemonStep, step.sink? ≠ some id →
    (step.perform daemon).2.told id = daemon.told id
  refused : ∀ call status body,
    ((DaemonStep.call call).perform daemon).1 = .error (.rejected status body) →
      ((DaemonStep.call call).perform daemon).2.told id = daemon.told id

theorem listed_sink_iff {daemon : Daemon} (keyed : daemon.Keyed) (id : UInt8) :
    (∃ sink ∈ daemon.sinks.toList, sink.id = id) ↔ daemon.sinks.contains id = true := by
  have ids := (keyed .sink).mem_ids_iff id
  rw [List.mem_map] at ids
  rw [IdTable.contains, Option.isSome_iff_exists]
  exact ids

/-- After every run, what is told of a sink follows the sink: it is told while the sink is there, it is
blank from a delete of the sink to the next time that it is set, and no step for anything else changes it. -/
theorem sink_status_follows_sink (settings : DaemonSettings) (history : List DaemonStep)
    (id : UInt8) :
    StatusFollowsSink ((start settings).events history) ((start settings).afterRun history) id := by
  have listed := listed_sink_iff (keyed_afterRun settings history) id
  have stored := stored_afterRun (start settings) history id
  generalize (start settings).afterRun history = daemon at listed stored
  exact {
    present := by
      rw [listed]
      constructor
      · intro success
        obtain ⟨status, told⟩ := success
        exact ((daemon.told_eq_ok_iff id status).mp told).1
      · intro found
        exact ⟨_, (daemon.told_eq_ok_iff id _).mpr ⟨found, rfl⟩⟩
    missing := by
      rw [listed, told_eq]
      cases found : daemon.sinks.contains id with
      | true => simp
      | false => simp [DaemonCall.path]
    history := by
      intro status told
      obtain ⟨-, same⟩ := (daemon.told_eq_ok_iff id status).mp told
      rw [← same, stored]
      rfl
    deleted := by
      intro deleted later unset status told
      obtain ⟨-, same⟩ := (told_eq_ok_iff _ id status).mp told
      have gone : (daemon.afterRun (.call (.deleteSink id) :: later)).sinkStatus.get? id = none := by
        rcases stored_of_unset later unset with kept | ⟨-, nothing⟩
        · exact kept.trans (stored_of_deleted deleted)
        · exact nothing
      rw [gone] at same
      exact same.symm
    set := by
      intro status later unset undeleted shown told
      obtain ⟨-, same⟩ := (told_eq_ok_iff _ id shown).mp told
      have kept : (daemon.afterRun (.setSinkStatus id status :: later)).sinkStatus.get? id =
          some status := by
        rcases stored_of_unset later unset with kept | ⟨deleted, -⟩
        · refine kept.trans ?_
          exact (daemon.sinkStatus.get?_insert id id status).trans (if_pos rfl)
        · exact absurd deleted undeleted
      rw [kept] at same
      exact same.symm
    replaced := by
      intro record own found
      subst own
      exact told_of_replaced (perform_daemon_moves _ daemon) (listed.mp found)
    elsewhere := by
      intro step elsewhere
      obtain ⟨sink, status⟩ := silent_of_elsewhere elsewhere
      exact told_move (perform_daemon_moves step daemon) sink status
    refused := by
      intro call status body refused
      have move := perform_daemon_moves (.call call) daemon
      rw [refused] at move
      obtain ⟨sink, silent⟩ := silent_of_refused call id status body
      exact told_move move sink silent }

/-- A status goes with its sink, and the sink that is put again has a blank one. -/
example (settings : DaemonSettings) :
    let sink : Sink := ⟨3, "Monitor", "hw:1", false, "", "", 576, false, [0, 1]⟩
    let late : SinkStatus := { SinkStatus.blank with minTime := 12 }
    let steps : List DaemonStep := [.call (.putSink sink), .setSinkStatus 3 late]
    ((start settings).afterRun steps).told 3 = .ok (.sinkStatus late) ∧
      ((start settings).afterRun (steps ++ [.call (.deleteSink 3)])).told 3 =
        .error (.notFound "/sink/status/3") ∧
      ((start settings).afterRun (steps ++ [.call (.deleteSink 3), .call (.putSink sink)])).told 3 =
        .ok (.sinkStatus .blank) :=
  ⟨rfl, rfl, rfl⟩

end Daemon

end NetAudio
