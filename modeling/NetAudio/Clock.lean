import NetAudio.SampleRate

/-!
# Clocks

A clock is a sample rate together with the packet time the daemon is set to, counted in samples at
the base rate.  At a higher rate the same time holds more samples, so the ceiling of samples in one
packet is the product with the frame multiplier, held at the largest 32-bit word.
-/

set_option autoImplicit false

namespace NetAudio

/-- What to do with a rate that no daemon supports. -/
inductive RatePolicy where
  /-- Refuse it. -/
  | reject
  /-- Take it for a base rate. -/
  | degradeToBase
  deriving DecidableEq, Repr

structure Clock where
  sampleRate : UInt32
  ticFrameSize : UInt32
  frameMultiplier : UInt32
  deriving DecidableEq, Repr

namespace Clock

def checkTicFrameSize (ticFrameSize : UInt32) : Except CalculatorError Unit :=
  if ticFrameSize = 0 then
    .error (.invalidArgument "tic_frame_size_at_1fs must be positive")
  else
    .ok ()

def ofRate (rate : SampleRate) (ticFrameSize : UInt32) : Except CalculatorError Clock := do
  checkTicFrameSize ticFrameSize
  return { sampleRate := rate.hz, ticFrameSize, frameMultiplier := rate.frameMultiplier }

/-- The clock of any rate: an unsupported one is treated as the policy says, and is reported
before an empty packet time. -/
def resolve (hz ticFrameSize : UInt32) (policy : RatePolicy) : Except CalculatorError Clock :=
  match SampleRate.ofHz hz, policy with
  | .ok rate, _ => ofRate rate ticFrameSize
  | .error _, .degradeToBase => do
    checkTicFrameSize ticFrameSize
    return { sampleRate := hz, ticFrameSize, frameMultiplier := 1 }
  | .error cause, .reject => .error cause

/-- The product of two words, held at the largest word. -/
def saturatingMul (a b : UInt32) : UInt32 :=
  UInt32.ofNat (min (a.toNat * b.toNat) (UInt32.size - 1))

/-- The most samples one packet may hold at this clock. -/
def maxSamplesPerPacket (clock : Clock) : UInt32 :=
  saturatingMul clock.ticFrameSize clock.frameMultiplier

def allows (clock : Clock) (samples : UInt32) : Bool :=
  samples ≤ clock.maxSamplesPerPacket

end Clock

/-- The frame multiplier of a rate given in Hz; an unsupported rate is refused. -/
def normalizedFrameMultiplier (hz : UInt32) : Except CalculatorError UInt32 :=
  (SampleRate.ofHz hz).map SampleRate.frameMultiplier

end NetAudio
