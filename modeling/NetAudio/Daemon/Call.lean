import NetAudio.Daemon.Settings
import NetAudio.Daemon.Status
import NetAudio.Error

/-!
# Calls to a daemon

The operations of a daemon and the values they return.  Any daemon answers a call with a reply of
the call's kind or with a `DaemonError`.
-/

set_option autoImplicit false

namespace NetAudio

inductive DaemonCall where
  | settings
  | setSettings (edit : SettingsEdit)
  | version
  | ptpSettings
  | setPtpSettings (settings : PtpSettings)
  | ptpStatus
  | sources
  | sinks
  | streams
  | sinkStatus (id : UInt8)
  | remoteSources
  | sourceSdp (id : UInt8)
  /-- Makes or replaces the source with the record's id. -/
  | putSource (record : Source)
  | deleteSource (id : UInt8)
  /-- Makes or replaces the sink with the record's id. -/
  | putSink (record : Sink)
  | deleteSink (id : UInt8)
  deriving DecidableEq, Repr

inductive DaemonReply where
  | settings (value : DaemonSettings)
  | version (value : Version)
  | ptpSettings (value : PtpSettings)
  | ptpStatus (value : PtpStatus)
  | sources (value : List Source)
  | sinks (value : List Sink)
  | streams (value : StreamList)
  | sinkStatus (value : SinkStatus)
  | remoteSources (value : List RemoteSource)
  | sdp (text : String)
  /-- A write was carried out. -/
  | done
  deriving DecidableEq, Repr

def StreamUpdate.call : StreamUpdate → DaemonCall
  | .source record => .putSource record
  | .sink record => .putSink record

def DaemonCall.path : DaemonCall → String
  | .settings | .setSettings _ => "/config"
  | .version => "/version"
  | .ptpSettings | .setPtpSettings _ => "/ptp/config"
  | .ptpStatus => "/ptp/status"
  | .sources => "/sources"
  | .sinks => "/sinks"
  | .streams => "/streams"
  | .sinkStatus id => s!"/sink/status/{id.toNat}"
  | .remoteSources => "/browse/sources/all"
  | .sourceSdp id => s!"/source/sdp/{id.toNat}"
  | .putSource record => s!"/source/{record.id.toNat}"
  | .deleteSource id => s!"/source/{id.toNat}"
  | .putSink record => s!"/sink/{record.id.toNat}"
  | .deleteSink id => s!"/sink/{id.toNat}"

end NetAudio
