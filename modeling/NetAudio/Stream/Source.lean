import NetAudio.Packet

/-!
# Sources

A source is a stream the daemon sends.  The daemon stores a `Source`; a form edits a `SourceDraft`,
which leaves room for numbers that the daemon has none for and holds a checked channel map.
-/

set_option autoImplicit false

namespace NetAudio

/-- A source as the daemon stores it. -/
structure Source where
  id : UInt8
  enabled : Bool
  name : String
  io : String
  maxSamplesPerPacket : UInt32
  codec : Codec
  address : String
  ttl : UInt8
  payloadType : UInt8
  dscp : UInt8
  refclkPtpTraceable : Bool
  map : List UInt8
  deriving DecidableEq, Repr

/-- A source being edited. -/
structure SourceDraft where
  id : UInt8
  enabled : Bool
  name : String
  io : String
  maxSamplesPerPacket : UInt32
  codec : Codec
  address : String
  ttl : UInt32
  payloadType : UInt32
  dscp : UInt8
  refclkPtpTraceable : Bool
  map : ChannelMap
  deriving DecidableEq

namespace SourceDraft

def withDefaults (id : UInt8) : SourceDraft where
  id := id
  enabled := true
  name := s!"ALSA Source {id.toNat}"
  io := "Audio Device"
  maxSamplesPerPacket := 48
  codec := .l16
  address := ""
  ttl := 15
  payloadType := 98
  dscp := 34
  refclkPtpTraceable := false
  map := .stereoPair id

def ofSource (source : Source) : Except CalculatorError SourceDraft := do
  let map ← ChannelMap.ofRecord source.map
  return {
    id := source.id
    enabled := source.enabled
    name := source.name
    io := source.io
    maxSamplesPerPacket := source.maxSamplesPerPacket
    codec := source.codec
    address := source.address
    ttl := source.ttl.toUInt32
    payloadType := source.payloadType.toUInt32
    dscp := source.dscp
    refclkPtpTraceable := source.refclkPtpTraceable
    map }

def narrow (field : String) (value : UInt32) : Except CalculatorError UInt8 :=
  if value.toNat < UInt8.size then
    .ok value.toUInt8
  else
    .error (.invalidArgument s!"{field} out of range: {value.toNat}")

def toSource (draft : SourceDraft) : Except CalculatorError Source := do
  let ttl ← narrow "ttl" draft.ttl
  let payloadType ← narrow "payload_type" draft.payloadType
  return {
    id := draft.id
    enabled := draft.enabled
    name := draft.name
    io := draft.io
    maxSamplesPerPacket := draft.maxSamplesPerPacket
    codec := draft.codec
    address := draft.address
    ttl
    payloadType
    dscp := draft.dscp
    refclkPtpTraceable := draft.refclkPtpTraceable
    map := draft.map.indices }

/-- The most channels the draft's encoding and packet size leave room for; none for an empty packet. -/
def maxChannels (draft : SourceDraft) (budget : UInt64) : UInt64 :=
  match maxChannelsWithin draft.codec draft.maxSamplesPerPacket budget with
  | .ok limit => limit
  | .error _ => 0

end SourceDraft

end NetAudio
