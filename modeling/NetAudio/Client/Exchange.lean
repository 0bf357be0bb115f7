import NetAudio.Daemon.Call
import NetAudio.Json.Reader
import NetAudio.Wire.Daemon

/-!
# Calls as exchanges over HTTP

What a call sends, and what an answer to it means.  A status outside 200 to 299 is a refusal, except
404, which says that there is nothing at the path.  A write that is not refused has been carried out,
whatever the answer says.
-/

set_option autoImplicit false

namespace NetAudio

open Json

namespace DaemonCall

def method : DaemonCall → String
  | .setSettings _ | .setPtpSettings _ => "POST"
  | .putSource _ | .putSink _ => "PUT"
  | .deleteSource _ | .deleteSink _ => "DELETE"
  | _ => "GET"

def content : DaemonCall → Option Json
  | .setSettings edit => some (toJson edit)
  | .setPtpSettings ptp => some (toJson ptp)
  | .putSource record => some (toJson record)
  | .putSink record => some (toJson record)
  | _ => none

end DaemonCall

/-- An answer that has arrived. -/
structure Incoming where
  status : UInt16
  text : String
  deriving DecidableEq, Repr

namespace Incoming

def isSuccess (answer : Incoming) : Bool := 200 ≤ answer.status && answer.status < 300

/-- Whether answers of a status carry no text. -/
def isBare (status : UInt16) : Bool := status = 204 || status = 304

def content (answer : Incoming) : String := if isBare answer.status then "" else answer.text

/-- The text that arrives, without a byte-order mark. -/
def plainContent (answer : Incoming) : String :=
  match answer.content.toList with
  | '\uFEFF' :: rest => String.ofList rest
  | _ => answer.content

/-- What the document in the text stands for.  `cause` is what is said of a text that holds no such
document. -/
def decode (α : Type) [Wire α] (answer : Incoming) (path cause : String) : Except DaemonError α :=
  match ofJson (readWhole answer.content) with
  | .ok value => .ok value
  | .error _ => .error (.undecodable (path ++ ": " ++ cause))

/-- The reply that a successful answer to a call means. -/
def reply (answer : Incoming) (call : DaemonCall) (cause : String) :
    Except DaemonError DaemonReply :=
  match call with
  | .settings => (answer.decode DaemonSettings call.path cause).map .settings
  | .version => (answer.decode Version call.path cause).map .version
  | .ptpSettings => (answer.decode PtpSettings call.path cause).map .ptpSettings
  | .ptpStatus => (answer.decode PtpStatus call.path cause).map .ptpStatus
  | .sources => (answer.decode SourceList call.path cause).map fun list => .sources list.sources
  | .sinks => (answer.decode SinkList call.path cause).map fun list => .sinks list.sinks
  | .streams => (answer.decode StreamList call.path cause).map .streams
  | .sinkStatus _ => (answer.decode SinkStatus call.path cause).map .sinkStatus
  | .remoteSources =>
    (answer.decode RemoteSourceList call.path cause).map fun list =>
      .remoteSources list.remoteSources
  | .sourceSdp _ => .ok (.sdp answer.plainContent)
  | .setSettings _ | .setPtpSettings _ | .putSource _ | .deleteSource _ | .putSink _
  | .deleteSink _ => .ok .done

def result (answer : Incoming) (call : DaemonCall) (cause : String) :
    Except DaemonError DaemonReply :=
  if answer.isSuccess then answer.reply call cause
  else if answer.status = 404 then .error (.notFound call.path)
  else .error (.rejected answer.status answer.plainContent)

end Incoming

end NetAudio
