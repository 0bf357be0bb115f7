import NetAudio.Stream

/-!
# What a daemon reports

Its version, the state of its PTP clock, its streams, the receive state of its sinks, and the sources
announced on the network.
-/

set_option autoImplicit false

namespace NetAudio

structure Version where
  version : String
  deriving DecidableEq, Repr

structure PtpStatus where
  status : String
  gmid : String
  jitter : Int64
  deriving DecidableEq, Repr

def PtpStatus.blank : PtpStatus where
  status := ""
  gmid := ""
  jitter := 0

structure SinkFlags where
  rtpSeqIdError : Bool
  rtpSsrcError : Bool
  rtpPayloadTypeError : Bool
  rtpSacError : Bool
  receivingRtpPacket : Bool
  someMuted : Bool
  allMuted : Bool
  muted : Bool
  deriving DecidableEq, Repr

namespace SinkFlags

def blank : SinkFlags where
  rtpSeqIdError := false
  rtpSsrcError := false
  rtpPayloadTypeError := false
  rtpSacError := false
  receivingRtpPacket := false
  someMuted := false
  allMuted := false
  muted := false

/-- The labels whose flag is raised, in order. -/
def raised (flags : List (Bool × String)) : List String :=
  (flags.filter (·.1)).map (·.2)

def errors (flags : SinkFlags) : List String :=
  raised [(flags.rtpSeqIdError, "SEQID"), (flags.rtpSsrcError, "SSRC"),
    (flags.rtpPayloadTypeError, "payload type"), (flags.rtpSacError, "SAC")]

def activity (flags : SinkFlags) : List String :=
  raised [(flags.receivingRtpPacket, "receiving"), (flags.someMuted, "some muted"),
    (flags.allMuted, "all muted"), (flags.muted, "muted")]

end SinkFlags

/-- All streams of a daemon. -/
structure StreamList where
  sources : List Source
  sinks : List Sink
  deriving DecidableEq, Repr

/-- The receive state of a sink. -/
structure SinkStatus where
  flags : SinkFlags
  minTime : UInt32
  deriving DecidableEq, Repr

def SinkStatus.blank : SinkStatus where
  flags := .blank
  minTime := 0

/-- A source announced on the network. -/
structure RemoteSource where
  source : String
  id : String
  name : String
  domain : String
  address : String
  sdp : String
  lastSeen : UInt32
  announcePeriod : UInt32
  deriving DecidableEq, Repr

end NetAudio
