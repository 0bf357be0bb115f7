import NetAudio.Daemon.Call
import NetAudio.Daemon.IdTable

/-!
# A daemon in memory

The daemon as tables: its settings, its sources and sinks by id, the status of sinks, and the
announcements.  A refusal may be armed; the next write, whichever it is, is answered with it and
does nothing else.
-/

set_option autoImplicit false

namespace NetAudio

structure Daemon where
  settings : DaemonSettings
  ptpStatus : PtpStatus
  sources : IdTable Source
  sinks : IdTable Sink
  sinkStatus : IdTable SinkStatus
  remoteSources : List RemoteSource
  /-- Status and text of the answer to the next write. -/
  refusal : Option (UInt16 × String)

namespace Daemon

def start (settings : DaemonSettings) : Daemon where
  settings := settings
  ptpStatus := .blank
  sources := .empty
  sinks := .empty
  sinkStatus := .empty
  remoteSources := []
  refusal := none

/-! ## What happens outside the calls -/

def setPtpStatus (status : PtpStatus) (daemon : Daemon) : Daemon :=
  { daemon with ptpStatus := status }

def setRemoteSources (sources : List RemoteSource) (daemon : Daemon) : Daemon :=
  { daemon with remoteSources := sources }

/-- Sets the status reported for sink `id` while that sink exists. -/
def setSinkStatus (id : UInt8) (status : SinkStatus) (daemon : Daemon) : Daemon :=
  { daemon with sinkStatus := daemon.sinkStatus.insert id status }

def rejectNext (status : UInt16) (body : String) (daemon : Daemon) : Daemon :=
  { daemon with refusal := some (status, body) }

/-! ## The calls -/

/-- An action on a daemon; a failure keeps the daemon as the action left it. -/
abbrev Action := EStateM DaemonError Daemon

/-- Gives the armed refusal, if there is one, and disarms it. -/
def takeRefusal : Action Unit := do
  match (← get).refusal with
  | none => return
  | some (status, body) =>
    modify fun daemon => { daemon with refusal := none }
    throw (.rejected status body)

def setSettings (edit : SettingsEdit) : Action Unit := do
  takeRefusal
  modify fun daemon => { daemon with settings := daemon.settings.apply edit }

def setPtpSettings (ptp : PtpSettings) : Action Unit := do
  takeRefusal
  modify fun daemon => { daemon with settings := daemon.settings.withPtp ptp }

def putSource (record : Source) : Action Unit := do
  takeRefusal
  modify fun daemon => { daemon with sources := daemon.sources.insert record.id record }

def deleteSource (id : UInt8) : Action Unit := do
  takeRefusal
  if !(← get).sources.contains id then throw (.notFound s!"/source/{id.toNat}")
  modify fun daemon => { daemon with sources := daemon.sources.erase id }

def putSink (record : Sink) : Action Unit := do
  takeRefusal
  modify fun daemon => { daemon with sinks := daemon.sinks.insert record.id record }

/-- The status of the id goes even if there is no such sink. -/
def deleteSink (id : UInt8) : Action Unit := do
  takeRefusal
  modify fun daemon => { daemon with sinkStatus := daemon.sinkStatus.erase id }
  if !(← get).sinks.contains id then throw (.notFound s!"/sink/{id.toNat}")
  modify fun daemon => { daemon with sinks := daemon.sinks.erase id }

def streams (daemon : Daemon) : StreamList where
  sources := daemon.sources.toList
  sinks := daemon.sinks.toList

/-- The status of a sink that exists; until one is set it is blank. -/
def statusOfSink (daemon : Daemon) (id : UInt8) : Except DaemonError SinkStatus :=
  if daemon.sinks.contains id then .ok ((daemon.sinkStatus.get? id).getD .blank)
  else .error (.notFound s!"/sink/status/{id.toNat}")

def sdpOf (source : Source) (sampleRate : UInt32) : String :=
  "v=0\r\ns=" ++ source.name ++
    s!"\r\nm=audio 5004 RTP/AVP {source.payloadType.toNat}\r\na=rtpmap:{source.payloadType.toNat} " ++
    source.codec.name ++ s!"/{sampleRate.toNat}/{source.map.length}\r\n"

def sourceSdp (daemon : Daemon) (id : UInt8) : Except DaemonError String :=
  match daemon.sources.get? id with
  | some source => .ok (sdpOf source daemon.settings.sampleRate)
  | none => .error (.notFound s!"/source/sdp/{id.toNat}")

def version : Version where
  version := "0.1.0"

def answer : DaemonCall → Action DaemonReply
  | .settings => return .settings (← get).settings
  | .setSettings edit => do setSettings edit; return .done
  | .version => return .version version
  | .ptpSettings => return .ptpSettings (← get).settings.ptp
  | .setPtpSettings ptp => do setPtpSettings ptp; return .done
  | .ptpStatus => return .ptpStatus (← get).ptpStatus
  | .sources => return .sources (← get).sources.toList
  | .sinks => return .sinks (← get).sinks.toList
  | .streams => return .streams (← get).streams
  | .sinkStatus id => do
    match (← get).statusOfSink id with
    | .ok status => return .sinkStatus status
    | .error cause => throw cause
  | .remoteSources => return .remoteSources (← get).remoteSources
  | .sourceSdp id => do
    match (← get).sourceSdp id with
    | .ok text => return .sdp text
    | .error cause => throw cause
  | .putSource record => do putSource record; return .done
  | .deleteSource id => do deleteSource id; return .done
  | .putSink record => do putSink record; return .done
  | .deleteSink id => do deleteSink id; return .done

def send (update : StreamUpdate) : StateM Daemon (Except DaemonError Unit) := fun daemon =>
  match (answer update.call).run daemon with
  | .ok _ changed => (.ok (), changed)
  | .error cause changed => (.error cause, changed)

end Daemon

end NetAudio
