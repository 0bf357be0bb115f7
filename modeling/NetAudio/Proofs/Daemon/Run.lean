import NetAudio.Daemon.Memory
import NetAudio.Proofs.Run

/-!
# Runs of a daemon in memory

A step is a call or something that happens outside the calls.  `DaemonMove` lists everything a step
can do to a daemon with what it answers; `perform_daemon_moves` says that there is nothing else.
-/

set_option autoImplicit false

namespace NetAudio

def DaemonCall.isWrite : DaemonCall → Bool
  | .setSettings _ | .setPtpSettings _ => true
  | .putSource _ | .deleteSource _ | .putSink _ | .deleteSink _ => true
  | _ => false

inductive DaemonStep where
  | call (asked : DaemonCall)
  | setPtpStatus (status : PtpStatus)
  | setRemoteSources (sources : List RemoteSource)
  | setSinkStatus (id : UInt8) (status : SinkStatus)
  | rejectNext (status : UInt16) (body : String)

/-- Carries a step out.  What happens outside the calls is done without fail. -/
def DaemonStep.perform (step : DaemonStep) (daemon : Daemon) :
    Except DaemonError DaemonReply × Daemon :=
  match step with
  | .call asked => carryOut (Daemon.answer asked) daemon
  | .setPtpStatus status => (.ok .done, daemon.setPtpStatus status)
  | .setRemoteSources sources => (.ok .done, daemon.setRemoteSources sources)
  | .setSinkStatus id status => (.ok .done, daemon.setSinkStatus id status)
  | .rejectNext status body => (.ok .done, daemon.rejectNext status body)

def Daemon.afterRun (daemon : Daemon) (steps : List DaemonStep) : Daemon :=
  stateAfter DaemonStep.perform daemon steps

/-! ## What each call does -/

namespace Daemon
variable {daemon : Daemon}

theorem carryOut_takeRefusal (daemon : Daemon) :
    carryOut takeRefusal daemon =
      match daemon.refusal with
      | none => (.ok (), daemon)
      | some (status, body) =>
          (.error (.rejected status body), { daemon with refusal := none }) := by
  cases pending : daemon.refusal with
  | none => simp [takeRefusal, pending]
  | some refusal => simp [takeRefusal, pending]

/-- An armed refusal answers the next write and is spent; nothing else happens. -/
theorem carryOut_write_of_refusal (call : DaemonCall) (writes : call.isWrite = true)
    {status : UInt16} {body : String} (armed : daemon.refusal = some (status, body)) :
    carryOut (answer call) daemon =
      (.error (.rejected status body), { daemon with refusal := none }) := by
  cases call with
  | setSettings edit => simp [answer, setSettings, carryOut_takeRefusal, armed]
  | setPtpSettings ptp => simp [answer, setPtpSettings, carryOut_takeRefusal, armed]
  | putSource record => simp [answer, putSource, carryOut_takeRefusal, armed]
  | deleteSource id => simp [answer, deleteSource, carryOut_takeRefusal, armed]
  | putSink record => simp [answer, putSink, carryOut_takeRefusal, armed]
  | deleteSink id => simp [answer, deleteSink, carryOut_takeRefusal, armed]
  | _ => cases writes

theorem carryOut_setSettings (edit : SettingsEdit) (clear : daemon.refusal = none) :
    carryOut (answer (.setSettings edit)) daemon =
      (.ok .done, { daemon with settings := daemon.settings.apply edit }) := by
  simp [answer, setSettings, carryOut_takeRefusal, clear]

theorem carryOut_setPtpSettings (ptp : PtpSettings) (clear : daemon.refusal = none) :
    carryOut (answer (.setPtpSettings ptp)) daemon =
      (.ok .done, { daemon with settings := daemon.settings.withPtp ptp }) := by
  simp [answer, setPtpSettings, carryOut_takeRefusal, clear]

theorem carryOut_putSource (record : Source) (clear : daemon.refusal = none) :
    carryOut (answer (.putSource record)) daemon =
      (.ok .done, { daemon with sources := daemon.sources.insert record.id record }) := by
  simp [answer, putSource, carryOut_takeRefusal, clear]

theorem carryOut_putSink (record : Sink) (clear : daemon.refusal = none) :
    carryOut (answer (.putSink record)) daemon =
      (.ok .done, { daemon with sinks := daemon.sinks.insert record.id record }) := by
  simp [answer, putSink, carryOut_takeRefusal, clear]

theorem carryOut_deleteSource (id : UInt8) (clear : daemon.refusal = none) :
    carryOut (answer (.deleteSource id)) daemon =
      if daemon.sources.contains id then
        (.ok .done, { daemon with sources := daemon.sources.erase id })
      else
        (.error (.notFound (DaemonCall.deleteSource id).path), daemon) := by
  by_cases found : daemon.sources.contains id
  · simp [answer, deleteSource, carryOut_takeRefusal, clear, found]
  · simp [answer, deleteSource, DaemonCall.path, carryOut_takeRefusal, clear, found]

/-- The status goes before the sink is looked for. -/
theorem carryOut_deleteSink (id : UInt8) (clear : daemon.refusal = none) :
    carryOut (answer (.deleteSink id)) daemon =
      if daemon.sinks.contains id then
        (.ok .done, { daemon with
          sinkStatus := daemon.sinkStatus.erase id, sinks := daemon.sinks.erase id })
      else
        (.error (.notFound (DaemonCall.deleteSink id).path),
          { daemon with sinkStatus := daemon.sinkStatus.erase id }) := by
  by_cases found : daemon.sinks.contains id
  · simp [answer, deleteSink, carryOut_takeRefusal, clear, found]
  · simp [answer, deleteSink, DaemonCall.path, carryOut_takeRefusal, clear, found]

theorem carryOut_read (call : DaemonCall) (reads : call.isWrite = false) :
    ∃ result, carryOut (answer call) daemon = (result, daemon) := by
  cases call with
  | sinkStatus id =>
      cases status : daemon.statusOfSink id with
      | ok found => exact ⟨.ok (.sinkStatus found), by simp [answer, status]⟩
      | error cause => exact ⟨.error cause, by simp [answer, status]⟩
  | sourceSdp id =>
      cases announced : daemon.sourceSdp id with
      | ok text => exact ⟨.ok (.sdp text), by simp [answer, announced]⟩
      | error cause => exact ⟨.error cause, by simp [answer, announced]⟩
  | setSettings _ | setPtpSettings _ | putSource _ | deleteSource _ | putSink _ | deleteSink _ =>
      cases reads
  | _ => exact ⟨.ok _, rfl⟩

end Daemon

/-! ## Moves -/

inductive DaemonMove (daemon : Daemon) :
    DaemonStep → Except DaemonError DaemonReply → Daemon → Prop where
  | read (call : DaemonCall) (result : Except DaemonError DaemonReply)
      (reads : call.isWrite = false)
      (answered : carryOut (Daemon.answer call) daemon = (result, daemon)) :
      DaemonMove daemon (.call call) result daemon
  | refused (call : DaemonCall) (status : UInt16) (body : String)
      (writes : call.isWrite = true) (armed : daemon.refusal = some (status, body)) :
      DaemonMove daemon (.call call) (.error (.rejected status body))
        { daemon with refusal := none }
  | setSettings (edit : SettingsEdit) (clear : daemon.refusal = none) :
      DaemonMove daemon (.call (.setSettings edit)) (.ok .done)
        { daemon with settings := daemon.settings.apply edit }
  | setPtpSettings (ptp : PtpSettings) (clear : daemon.refusal = none) :
      DaemonMove daemon (.call (.setPtpSettings ptp)) (.ok .done)
        { daemon with settings := daemon.settings.withPtp ptp }
  | putSource (record : Source) (clear : daemon.refusal = none) :
      DaemonMove daemon (.call (.putSource record)) (.ok .done)
        { daemon with sources := daemon.sources.insert record.id record }
  | deleteSource (id : UInt8) (clear : daemon.refusal = none)
      (found : daemon.sources.contains id = true) :
      DaemonMove daemon (.call (.deleteSource id)) (.ok .done)
        { daemon with sources := daemon.sources.erase id }
  | missingSource (id : UInt8) (clear : daemon.refusal = none)
      (missing : daemon.sources.contains id = false) :
      DaemonMove daemon (.call (.deleteSource id))
        (.error (.notFound (DaemonCall.deleteSource id).path)) daemon
  | putSink (record : Sink) (clear : daemon.refusal = none) :
      DaemonMove daemon (.call (.putSink record)) (.ok .done)
        { daemon with sinks := daemon.sinks.insert record.id record }
  | deleteSink (id : UInt8) (clear : daemon.refusal = none)
      (found : daemon.sinks.contains id = true) :
      DaemonMove daemon (.call (.deleteSink id)) (.ok .done)
        { daemon with
          sinkStatus := daemon.sinkStatus.erase id, sinks := daemon.sinks.erase id }
  | missingSink (id : UInt8) (clear : daemon.refusal = none)
      (missing : daemon.sinks.contains id = false) :
      DaemonMove daemon (.call (.deleteSink id))
        (.error (.notFound (DaemonCall.deleteSink id).path))
        { daemon with sinkStatus := daemon.sinkStatus.erase id }
  | setPtpStatus (status : PtpStatus) :
      DaemonMove daemon (.setPtpStatus status) (.ok .done) { daemon with ptpStatus := status }
  | setRemoteSources (sources : List RemoteSource) :
      DaemonMove daemon (.setRemoteSources sources) (.ok .done)
        { daemon with remoteSources := sources }
  | setSinkStatus (id : UInt8) (status : SinkStatus) :
      DaemonMove daemon (.setSinkStatus id status) (.ok .done)
        { daemon with sinkStatus := daemon.sinkStatus.insert id status }
  | rejectNext (status : UInt16) (body : String) :
      DaemonMove daemon (.rejectNext status body) (.ok .done)
        { daemon with refusal := some (status, body) }

theorem write_moves (call : DaemonCall) (writes : call.isWrite = true) (daemon : Daemon)
    (clear : daemon.refusal = none) :
    DaemonMove daemon (.call call) (carryOut (Daemon.answer call) daemon).1
      (carryOut (Daemon.answer call) daemon).2 := by
  cases call with
  | setSettings edit =>
      rw [Daemon.carryOut_setSettings edit clear]
      exact .setSettings edit clear
  | setPtpSettings ptp =>
      rw [Daemon.carryOut_setPtpSettings ptp clear]
      exact .setPtpSettings ptp clear
  | putSource record =>
      rw [Daemon.carryOut_putSource record clear]
      exact .putSource record clear
  | putSink record =>
      rw [Daemon.carryOut_putSink record clear]
      exact .putSink record clear
  | deleteSource id =>
      rw [Daemon.carryOut_deleteSource id clear]
      cases found : daemon.sources.contains id with
      | true => exact .deleteSource id clear found
      | false => exact .missingSource id clear found
  | deleteSink id =>
      rw [Daemon.carryOut_deleteSink id clear]
      cases found : daemon.sinks.contains id with
      | true => exact .deleteSink id clear found
      | false => exact .missingSink id clear found
  | _ => cases writes

/-- A step does nothing to a daemon but what `DaemonMove` lists. -/
theorem perform_daemon_moves (step : DaemonStep) (daemon : Daemon) :
    DaemonMove daemon step (step.perform daemon).1 (step.perform daemon).2 := by
  cases step with
  | call asked =>
      cases writes : asked.isWrite with
      | false =>
          obtain ⟨result, answered⟩ := @Daemon.carryOut_read daemon asked writes
          simp only [DaemonStep.perform, answered]
          exact .read asked result writes answered
      | true =>
          cases pending : daemon.refusal with
          | none => exact write_moves asked writes daemon pending
          | some refusal =>
              obtain ⟨status, body⟩ := refusal
              simp only [DaemonStep.perform,
                Daemon.carryOut_write_of_refusal asked writes pending]
              exact .refused asked status body writes pending
  | setPtpStatus status => exact .setPtpStatus status
  | setRemoteSources sources => exact .setRemoteSources sources
  | setSinkStatus id status => exact .setSinkStatus id status
  | rejectNext status body => exact .rejectNext status body

end NetAudio
