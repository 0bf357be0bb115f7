import NetAudio.Clock
import NetAudio.Codec
import NetAudio.ChannelMap

/-!
# Packet sizing

One packet carries a block of samples of every channel of a stream.  The block's length is one of a
few offered sizes and is bounded by the clock; its bytes are bounded by the payload budget, which
bounds the number of channels.
-/

set_option autoImplicit false

namespace NetAudio

/-- Payload bytes one packet may carry unless set otherwise. -/
def defaultPacketBudget : UInt64 := 1440

/-- The packet sizes on offer, in samples. -/
def packetSizes : List UInt32 := [6, 12, 16, 48, 96, 192]

/-- One entry of the packet-size selector; an entry that the clock does not allow stays listed. -/
structure PacketOption where
  samples : UInt32
  allowed : Bool
  deriving DecidableEq, Repr

def Clock.packetOptions (clock : Clock) : List PacketOption :=
  packetSizes.map fun samples => { samples, allowed := clock.allows samples }

/-- Whether a packet of `samples` fits the packet time at a rate, by the exact product. -/
def samplesAllowed (samples ticFrameSize : UInt32) (rate : SampleRate) : Bool :=
  samples.toUInt64 ≤ ticFrameSize.toUInt64 * rate.frameMultiplier.toUInt64

/-- The most channels whose blocks of `samples` fit the budget, at most one bank. -/
def maxChannelsWithin (codec : Codec) (samples : UInt32) (budget : UInt64) :
    Except CalculatorError UInt64 :=
  if samples = 0 then
    .error (.invalidArgument "max_samples_per_packet must be positive")
  else
    .ok (min (budget / (samples.toUInt64 * codec.bytesPerSample)) (UInt64.ofNat bankSize))

def maxChannels (codec : Codec) (samples : UInt32) : Except CalculatorError UInt64 :=
  maxChannelsWithin codec samples defaultPacketBudget

end NetAudio
