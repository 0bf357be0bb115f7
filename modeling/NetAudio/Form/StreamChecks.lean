import NetAudio.Dscp
import NetAudio.Form.Validation
import NetAudio.Net.Address
import NetAudio.Stream
import NetAudio.Text.Parts
import NetAudio.Url.Basic

/-!
# Checks of stream drafts

One pass over a draft finds every issue at once.  A source is checked against the clock and the
packet budget of its form; a sink only against itself, and of its two descriptions only the one in
use counts.
-/

set_option autoImplicit false

namespace NetAudio

/-- What a form knows besides its draft. -/
structure FormContext where
  clock : Clock
  /-- Payload bytes one packet may carry. -/
  budget : UInt64
  deriving DecidableEq, Repr

/-- The playout delays on offer for a sink, in samples. -/
def sinkDelays : List UInt32 := [192, 384, 576, 768, 960]

def checkId (id : UInt8) : Check := (.id, Issue.unlessIn id.toNat 0 (maxStreams - 1))

def checkName (name : String) : Check := (.name, Issue.unlessGiven name)

namespace SourceDraft

/-- An address may be left out; one that is given must be an IPv4 address. -/
def checkAddress (address : String) : Check :=
  (.address, Issue.unlessFormed (address.isEmpty || (Ipv4.ofText? address).isSome))

/-- The packet size must be on offer and within the clock's ceiling. -/
def checkSamples (samples : UInt32) (clock : Clock) : Check :=
  (.maxSamplesPerPacket,
    if packetSizes.contains samples then
      Issue.ifAbove samples.toNat clock.maxSamplesPerPacket.toNat
    else
      some .notOffered)

/-- The channels must fit the budget.  An empty packet, which has no channel limit, is an issue of
the packet size alone. -/
def checkChannels (draft : SourceDraft) (budget : UInt64) : Check :=
  (.channels,
    match maxChannelsWithin draft.codec draft.maxSamplesPerPacket budget with
    | .ok limit => Issue.ifAbove draft.map.count limit.toNat
    | .error _ => none)

def validate (draft : SourceDraft) (context : FormContext) : Validation where
  checks :=
    [checkId draft.id,
      checkName draft.name,
      checkAddress draft.address,
      (.ttl, Issue.unlessIn draft.ttl.toNat 1 255),
      (.payloadType, Issue.unlessIn draft.payloadType.toNat 77 127),
      (.dscp, Issue.unlessOffered ((Dscp.all.map Dscp.codepoint).contains draft.dscp)),
      checkSamples draft.maxSamplesPerPacket context.clock,
      draft.checkChannels context.budget]

end SourceDraft

namespace SinkDraft

/-- The description in use: a text with more than white space in it, or a URL. -/
def checkDescription (draft : SinkDraft) : Check :=
  if draft.useSdp then
    (.sdp, Issue.unlessGiven (Text.trim draft.sdp))
  else
    (.source,
      if draft.source.isEmpty then some .required else Issue.unlessFormed (Url.isAbsolute draft.source))

def validate (draft : SinkDraft) : Validation where
  checks :=
    [checkId draft.id,
      checkName draft.name,
      draft.checkDescription,
      (.delay, Issue.unlessOffered (sinkDelays.contains draft.delay))]

end SinkDraft

end NetAudio
