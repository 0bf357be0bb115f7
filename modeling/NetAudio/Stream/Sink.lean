import NetAudio.ChannelMap

/-!
# Sinks

A sink is a stream the daemon receives, described either by an SDP text or by the URL of one.  The
daemon stores a `Sink`; a form edits a `SinkDraft`, which holds a checked channel map.
-/

set_option autoImplicit false

namespace NetAudio

/-- A sink as the daemon stores it. -/
structure Sink where
  id : UInt8
  name : String
  io : String
  useSdp : Bool
  source : String
  sdp : String
  delay : UInt32
  ignoreRefclkGmid : Bool
  map : List UInt8
  deriving DecidableEq, Repr

/-- A sink being edited. -/
structure SinkDraft where
  id : UInt8
  name : String
  io : String
  useSdp : Bool
  source : String
  sdp : String
  delay : UInt32
  ignoreRefclkGmid : Bool
  map : ChannelMap
  deriving DecidableEq

def trimSlashes (text : String) : String :=
  String.ofList (text.toList.reverse.dropWhile (· == '/')).reverse

namespace SinkDraft

/-- Where a daemon serves the SDP of its own source `id`. -/
def ownSdpUrl (baseUrl : String) (id : UInt8) : String :=
  trimSlashes baseUrl ++ s!"/api/source/sdp/{id.toNat}"

/-- What a new sink starts with: it points at the daemon's own source of the same id. -/
def withDefaults (id : UInt8) (baseUrl : String) : SinkDraft where
  id := id
  name := s!"ALSA Sink {id.toNat}"
  io := "Audio Device"
  useSdp := false
  source := ownSdpUrl baseUrl id
  sdp := ""
  delay := 576
  ignoreRefclkGmid := true
  map := .stereoPair id

def ofSink (sink : Sink) : Except CalculatorError SinkDraft := do
  let map ← ChannelMap.ofRecord sink.map
  return {
    id := sink.id
    name := sink.name
    io := sink.io
    useSdp := sink.useSdp
    source := sink.source
    sdp := sink.sdp
    delay := sink.delay
    ignoreRefclkGmid := sink.ignoreRefclkGmid
    map }

def toSink (draft : SinkDraft) : Sink where
  id := draft.id
  name := draft.name
  io := draft.io
  useSdp := draft.useSdp
  source := draft.source
  sdp := draft.sdp
  delay := draft.delay
  ignoreRefclkGmid := draft.ignoreRefclkGmid
  map := draft.map.indices

end SinkDraft

end NetAudio
