import NetAudio.Error

/-!
# Sample rates

The rates a daemon can run at.  Each is a multiple of a base rate, 44.1 or 48 kHz; the multiple is
the frame multiplier, by which a packet time given at the base rate is scaled.
-/

set_option autoImplicit false

namespace NetAudio

inductive SampleRate where
  | hz44100
  | hz48000
  | hz88200
  | hz96000
  | hz176400
  | hz192000
  | hz352800
  | hz384000
  deriving DecidableEq, Repr

namespace SampleRate

/-- All rates, ascending. -/
def all : List SampleRate :=
  [.hz44100, .hz48000, .hz88200, .hz96000, .hz176400, .hz192000, .hz352800, .hz384000]

def hz : SampleRate → UInt32
  | .hz44100 => 44100
  | .hz48000 => 48000
  | .hz88200 => 88200
  | .hz96000 => 96000
  | .hz176400 => 176400
  | .hz192000 => 192000
  | .hz352800 => 352800
  | .hz384000 => 384000

def frameMultiplier : SampleRate → UInt32
  | .hz44100 | .hz48000 => 1
  | .hz88200 | .hz96000 => 2
  | .hz176400 | .hz192000 => 4
  | .hz352800 | .hz384000 => 8

def text (rate : SampleRate) : String :=
  s!"{rate.hz.toNat} Hz"

def ofHz (hz : UInt32) : Except CalculatorError SampleRate :=
  match all.find? fun rate => rate.hz == hz with
  | some rate => .ok rate
  | none => .error (.unsupportedSampleRate hz)

end SampleRate

end NetAudio
