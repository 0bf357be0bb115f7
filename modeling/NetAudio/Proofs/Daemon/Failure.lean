import NetAudio.Proofs.Daemon.Tables
import NetAudio.Proofs.Daemon.Run

/-!
# Writes that fail

A write that fails spends the refusal that made it fail, if one did, and keeps all else, with one
exception: the status stored for a sink is forgotten by a delete of the sink also when there is no
such sink.  Daemons that differ in that status alone cannot be told apart by anything but a question
for it.
-/

set_option autoImplicit false

namespace NetAudio

namespace Daemon

/-- A write takes the status stored for sink `id` along although it finds nothing to delete. -/
structure Forgets (daemon : Daemon) (call : DaemonCall) (id : UInt8) : Prop where
  deletes : call = .deleteSink id
  clear : daemon.refusal = none
  missing : daemon.sinks.contains id = false
  stored : daemon.sinkStatus.get? id ≠ none

structure AgreesButStatus (left right : Daemon) (id : UInt8) : Prop where
  settings : left.settings = right.settings
  ptpStatus : left.ptpStatus = right.ptpStatus
  sources : left.sources = right.sources
  sinks : left.sinks = right.sinks
  remoteSources : left.remoteSources = right.remoteSources
  refusal : left.refusal = right.refusal
  sinkStatus : ∀ other, other ≠ id → left.sinkStatus.get? other = right.sinkStatus.get? other

section Agreement
variable {left right : Daemon} {id : UInt8}

theorem AgreesButStatus.read (agree : left.AgreesButStatus right id) (call : DaemonCall)
    (reads : call.isWrite = false) (other : call ≠ .sinkStatus id) :
    (carryOut (answer call) left).1 = (carryOut (answer call) right).1 := by
  cases call with
  | sinkStatus asked =>
      have distinct : asked ≠ id := fun same => other (same ▸ rfl)
      have same : left.statusOfSink asked = right.statusOfSink asked := by
        rw [statusOfSink, statusOfSink, agree.sinks, agree.sinkStatus asked distinct]
      simp only [answer, carryOut_bind, carryOut_get, same]
      cases right.statusOfSink asked <;> rfl
  | sourceSdp asked =>
      have same : left.sourceSdp asked = right.sourceSdp asked := by
        rw [sourceSdp, sourceSdp, agree.sources, agree.settings]
      simp only [answer, carryOut_bind, carryOut_get, same]
      cases right.sourceSdp asked <;> rfl
  | setSettings _ | setPtpSettings _ | putSource _ | deleteSource _ | putSink _ | deleteSink _ =>
      cases reads
  | _ =>
      simp [answer, streams, agree.settings, agree.ptpStatus, agree.sources, agree.sinks,
        agree.remoteSources]

theorem AgreesButStatus.write (agree : left.AgreesButStatus right id) (call : DaemonCall)
    (writes : call.isWrite = true) :
    (carryOut (answer call) left).1 = (carryOut (answer call) right).1 ∧
      (carryOut (answer call) left).2.AgreesButStatus (carryOut (answer call) right).2 id := by
  cases pending : left.refusal with
  | some refusal =>
      obtain ⟨status, body⟩ := refusal
      have armed : right.refusal = some (status, body) := agree.refusal ▸ pending
      rw [carryOut_write_of_refusal call writes pending, carryOut_write_of_refusal call writes armed]
      exact ⟨rfl, { agree with refusal := rfl }⟩
  | none =>
      have clear : right.refusal = none := agree.refusal ▸ pending
      cases call with
      | setSettings edit =>
          rw [carryOut_setSettings edit pending, carryOut_setSettings edit clear]
          exact ⟨rfl, { agree with settings := congrArg (·.apply edit) agree.settings }⟩
      | setPtpSettings ptp =>
          rw [carryOut_setPtpSettings ptp pending, carryOut_setPtpSettings ptp clear]
          exact ⟨rfl, { agree with settings := congrArg (·.withPtp ptp) agree.settings }⟩
      | putSource record =>
          rw [carryOut_putSource record pending, carryOut_putSource record clear]
          exact ⟨rfl, { agree with sources := congrArg (·.insert record.id record) agree.sources }⟩
      | putSink record =>
          rw [carryOut_putSink record pending, carryOut_putSink record clear]
          exact ⟨rfl, { agree with sinks := congrArg (·.insert record.id record) agree.sinks }⟩
      | deleteSource asked =>
          rw [carryOut_deleteSource asked pending, carryOut_deleteSource asked clear,
            ← agree.sources]
          split
          · exact ⟨rfl, { agree with sources := rfl }⟩
          · exact ⟨rfl, agree⟩
      | deleteSink asked =>
          have erased (other : UInt8) (distinct : other ≠ id) :
              (left.sinkStatus.erase asked).get? other =
                (right.sinkStatus.erase asked).get? other := by
            rw [IdTable.get?_erase, IdTable.get?_erase, agree.sinkStatus other distinct]
          rw [carryOut_deleteSink asked pending, carryOut_deleteSink asked clear, ← agree.sinks]
          split
          · exact ⟨rfl, { agree with sinks := rfl, sinkStatus := erased }⟩
          · exact ⟨rfl, { agree with sinks := rfl, sinkStatus := erased }⟩
      | _ => cases writes

/-- Only a question for the status in which they differ tells such daemons apart. -/
theorem AgreesButStatus.perform (agree : left.AgreesButStatus right id) (step : DaemonStep) :
    (step ≠ .call (.sinkStatus id) → (step.perform left).1 = (step.perform right).1) ∧
      (step.perform left).2.AgreesButStatus (step.perform right).2 id := by
  cases step with
  | call asked =>
      cases writes : asked.isWrite with
      | true =>
          obtain ⟨same, kept⟩ := agree.write asked writes
          exact ⟨fun _ => same, kept⟩
      | false =>
          refine ⟨fun other => agree.read asked writes fun same => other (same ▸ rfl), ?_⟩
          obtain ⟨_, onLeft⟩ := @carryOut_read left asked writes
          obtain ⟨_, onRight⟩ := @carryOut_read right asked writes
          rw [DaemonStep.perform, DaemonStep.perform, onLeft, onRight]
          exact agree
  | setPtpStatus status => exact ⟨fun _ => rfl, { agree with ptpStatus := rfl }⟩
  | setRemoteSources sources => exact ⟨fun _ => rfl, { agree with remoteSources := rfl }⟩
  | rejectNext status body => exact ⟨fun _ => rfl, { agree with refusal := rfl }⟩
  | setSinkStatus sink status =>
      refine ⟨fun _ => rfl, { agree with sinkStatus := ?_ }⟩
      intro other distinct
      simp only [DaemonStep.perform, setSinkStatus, IdTable.get?_insert,
        agree.sinkStatus other distinct]

theorem AgreesButStatus.afterRun (agree : left.AgreesButStatus right id)
    (steps : List DaemonStep) :
    (left.afterRun steps).AgreesButStatus (right.afterRun steps) id := by
  induction steps generalizing left right with
  | nil => exact agree
  | cons step rest ih => exact ih (agree.perform step).2

end Agreement

/-! ## What a failure leaves -/

section Failure
variable {daemon after : Daemon} {call : DaemonCall} {cause : DaemonError}

/-- A failing write meets a refusal, or deletes what is not there. -/
theorem failed_write_cases (writes : call.isWrite = true)
    (failed : carryOut (answer call) daemon = (.error cause, after)) :
    (∃ status body, daemon.refusal = some (status, body) ∧ cause = .rejected status body ∧
        after = { daemon with refusal := none }) ∨
      (daemon.refusal = none ∧ cause = .notFound call.path ∧
        ((∃ id, call = .deleteSource id ∧ after = daemon) ∨
          ∃ id, call = .deleteSink id ∧ daemon.sinks.contains id = false ∧
            after = { daemon with sinkStatus := daemon.sinkStatus.erase id })) := by
  have move := perform_daemon_moves (.call call) daemon
  rw [DaemonStep.perform, failed] at move
  cases move with
  | read _ _ reads _ => rw [writes] at reads; cases reads
  | refused _ status body _ armed => exact .inl ⟨status, body, armed, rfl, rfl⟩
  | missingSource id clear _ => exact .inr ⟨clear, rfl, .inl ⟨id, rfl, rfl⟩⟩
  | missingSink id clear missing =>
      exact .inr ⟨clear, rfl, .inr ⟨id, rfl, missing, rfl⟩⟩

structure FailureKeeps (daemon after : Daemon) (call : DaemonCall) (cause : DaemonError) :
    Prop where
  told : (∃ status body, daemon.refusal = some (status, body) ∧ cause = .rejected status body) ∨
    (daemon.refusal = none ∧ cause = .notFound call.path)
  settings : after.settings = daemon.settings
  ptpStatus : after.ptpStatus = daemon.ptpStatus
  sources : after.sources = daemon.sources
  sinks : after.sinks = daemon.sinks
  remoteSources : after.remoteSources = daemon.remoteSources
  refusal : after.refusal = none
  remembered : ∀ id, ¬ daemon.Forgets call id →
    after.sinkStatus.get? id = daemon.sinkStatus.get? id
  forgotten : ∀ id, daemon.Forgets call id → after.sinkStatus.get? id = none
  atomic : after = { daemon with refusal := none } ↔ ∀ id, ¬ daemon.Forgets call id
  /-- Whatever happens later, every answer is as if the write had not been made, unless it tells a
  status that the write has taken along. -/
  later : ∀ (steps : List DaemonStep) (asked : DaemonStep),
    (∀ id, daemon.Forgets call id → asked ≠ .call (.sinkStatus id)) →
    (asked.perform (after.afterRun steps)).1 =
      (asked.perform (Daemon.afterRun { daemon with refusal := none } steps)).1

theorem failureKeeps_of_atomic
    (told : (∃ status body, daemon.refusal = some (status, body) ∧
      cause = .rejected status body) ∨ (daemon.refusal = none ∧ cause = .notFound call.path))
    (keeps : ∀ id, ¬ daemon.Forgets call id) :
    FailureKeeps daemon { daemon with refusal := none } call cause where
  told := told
  settings := rfl
  ptpStatus := rfl
  sources := rfl
  sinks := rfl
  remoteSources := rfl
  refusal := rfl
  remembered := fun _ _ => rfl
  forgotten := fun id forgets => absurd forgets (keeps id)
  atomic := iff_of_true rfl keeps
  later := fun _ _ _ => rfl

theorem failureKeeps_of_forgets {id : UInt8} (forgets : daemon.Forgets call id)
    (told : cause = .notFound call.path) :
    FailureKeeps daemon { daemon with sinkStatus := daemon.sinkStatus.erase id } call cause where
  told := .inr ⟨forgets.clear, told⟩
  settings := rfl
  ptpStatus := rfl
  sources := rfl
  sinks := rfl
  remoteSources := rfl
  refusal := forgets.clear
  remembered := by
    intro other keeps
    rw [IdTable.get?_erase, if_neg]
    rintro rfl
    exact keeps forgets
  forgotten := by
    intro other alike
    have same : other = id := by
      have both := forgets.deletes.symm.trans alike.deletes
      cases both
      rfl
    rw [IdTable.get?_erase, if_pos same]
  atomic := by
    refine iff_of_false ?_ fun keeps => keeps id forgets
    intro same
    have lost : (daemon.sinkStatus.erase id).get? id = daemon.sinkStatus.get? id :=
      congrArg (fun kept : Daemon => kept.sinkStatus.get? id) same
    rw [IdTable.get?_erase, if_pos rfl] at lost
    exact forgets.stored lost.symm
  later := by
    intro steps asked other
    have agree : AgreesButStatus { daemon with sinkStatus := daemon.sinkStatus.erase id }
        { daemon with refusal := none } id := {
      settings := rfl
      ptpStatus := rfl
      sources := rfl
      sinks := rfl
      remoteSources := rfl
      refusal := forgets.clear
      sinkStatus := fun key distinct => by rw [IdTable.get?_erase, if_neg distinct] }
    exact ((agree.afterRun steps).perform asked).1 (other id forgets)

/-- A write that fails changes nothing but the refusal that it spends, unless it deletes a sink that
is not there and whose status is stored: that status is lost, and nothing else. -/
theorem failed_write_keeps (writes : call.isWrite = true)
    (failed : carryOut (answer call) daemon = (.error cause, after)) :
    FailureKeeps daemon after call cause := by
  rcases failed_write_cases writes failed with
    ⟨status, body, armed, told, rfl⟩ | ⟨clear, told, ⟨id, rfl, rfl⟩ | ⟨id, rfl, missing, rfl⟩⟩
  · refine failureKeeps_of_atomic (.inl ⟨status, body, armed, told⟩) ?_
    intro id forgets
    rw [forgets.clear] at armed
    cases armed
  · have same : { after with refusal := none } = after := by rw [← clear]
    have keeps := failureKeeps_of_atomic (.inr ⟨clear, told⟩)
      (fun other forgets => by cases forgets.deletes)
    rwa [same] at keeps
  · cases stored : daemon.sinkStatus.get? id with
    | some status =>
        have forgets : daemon.Forgets (.deleteSink id) id :=
          ⟨rfl, clear, missing, by rw [stored]; exact Option.some_ne_none status⟩
        exact failureKeeps_of_forgets forgets told
    | none =>
        -- Nothing is stored, so there is nothing to lose.
        have same : { daemon with sinkStatus := daemon.sinkStatus.erase id } =
            { daemon with refusal := none } := by
          rw [IdTable.erase_of_get?_eq_none stored, ← clear]
        rw [same]
        refine failureKeeps_of_atomic (.inr ⟨clear, told⟩) ?_
        intro other forgets
        cases forgets.deletes
        exact forgets.stored stored

end Failure

/-- A status set ahead for a sink is lost by a delete that finds no such sink; it shows when the sink
is put and its status is asked for. -/
theorem missing_sink_loses_status :
    let heard : SinkStatus := ⟨{ SinkFlags.blank with receivingRtpPacket := true }, 5⟩
    let daemon := (start .blank).afterRun [.setSinkStatus 1 heard]
    let after := (carryOut (answer (.deleteSink 1)) daemon).2
    let put : DaemonStep := .call (.putSink (SinkDraft.withDefaults 1 "").toSink)
    let ask : DaemonStep := .call (.sinkStatus 1)
    carryOut (answer (.deleteSink 1)) daemon = (.error (.notFound "/sink/1"), after) ∧
      daemon.sinkStatus.get? 1 = some heard ∧ after.sinkStatus.get? 1 = none ∧
      (ask.perform (daemon.afterRun [put])).1 = .ok (.sinkStatus heard) ∧
      (ask.perform (after.afterRun [put])).1 = .ok (.sinkStatus .blank) :=
  ⟨rfl, rfl, rfl, rfl, rfl⟩

/-- A put that is refused, and deletes that find no source and no sink. -/
theorem failing_put_and_deletes_keep :
    let daemon := (start .blank).afterRun [.setSinkStatus 3 .blank]
    let armed := daemon.afterRun [.rejectNext 500 "busy"]
    let sink := (SinkDraft.withDefaults 3 "").toSink
    FailureKeeps armed daemon (.putSink sink) (.rejected 500 "busy") ∧
      FailureKeeps daemon daemon (.deleteSource 3) (.notFound "/source/3") ∧
      FailureKeeps daemon { daemon with sinkStatus := daemon.sinkStatus.erase 3 }
        (.deleteSink 3) (.notFound "/sink/3") :=
  ⟨failed_write_keeps rfl rfl, failed_write_keeps rfl rfl, failed_write_keeps rfl rfl⟩

end Daemon

end NetAudio
