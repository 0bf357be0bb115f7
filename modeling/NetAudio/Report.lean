import NetAudio.Packet
import NetAudio.Text.Decimal

/-!
# The sizing report

A command line that prints, for a clock and an encoding, the packet sizes with their channel limits
and, if a channel count is given, the channel map.  Arguments are read one after the other, and what
is printed before an argument fails stays printed.
-/

set_option autoImplicit false

namespace NetAudio.Report

/-- Why no report, or only part of one, is printed. -/
structure Failure where
  message : String
  cause : Option String
  deriving DecidableEq, Repr

/-- A cause is set off from its message; further lines of it are indented like the first. -/
def Failure.text (failure : Failure) : String :=
  "Error: " ++ failure.message ++ "\n" ++
    match failure.cause with
    | none => ""
    | some cause =>
      "\nCaused by:\n    " ++
        String.ofList (cause.toList.flatMap fun c => if c = '\n' then "\n    ".toList else [c]) ++ "\n"

/-- Printing: the state is the text printed so far, which a failure keeps. -/
abbrev Printer := EStateM Failure String

def line (text : String) : Printer Unit := modify (· ++ text ++ "\n")

def refuse {α : Type} (cause : CalculatorError) : Printer α := throw ⟨cause.message, none⟩

def usage : String :=
  "usage: stream-calc <sample_rate> <tic_frame_size_at_1fs> <codec> [channels] [start]"

/-- Reads an argument, naming it in the failure. -/
def argument {α : Type} (name value : String) (read : String → Except String α) : Printer α :=
  match read value with
  | .ok result => return result
  | .error cause => throw ⟨"invalid " ++ name ++ ": " ++ value, some cause⟩

def readWord (text : String) : Except String UInt32 :=
  (Decimal.readU32 text).mapError Decimal.Fault.message

def readCount (text : String) : Except String Nat :=
  (Decimal.readCount text).mapError Decimal.Fault.message

def readCodec (text : String) : Except String Codec :=
  (Codec.ofName text).mapError CalculatorError.message

/-- A number in a column of the given width, at its right end. -/
def column (width n : Nat) : String :=
  let digits := toString n
  String.ofList (List.replicate (width - digits.length) ' ') ++ digits

def row (codec : Codec) (option : PacketOption) : Printer Unit :=
  match maxChannels codec option.samples with
  | .error cause => refuse cause
  | .ok limit =>
    line (s!"  {column 4 option.samples.toNat} samples: up to {column 2 limit.toNat} channels" ++
      if option.allowed then "" else " [DISABLED]")

def printChannels (count start : Nat) : Printer Unit :=
  match ChannelMap.contiguous count start with
  | .error cause => refuse cause
  | .ok map => do
    line "\n=== Channel map ==="
    line ("  " ++ bracketed (map.indices.map UInt8.toNat))

def printMap : List String → Printer Unit
  | [] => return
  | [channels] => do
    printChannels (← argument "channel count" channels readCount) 0
  | channels :: start :: _ => do
    let count ← argument "channel count" channels readCount
    printChannels count (← argument "start offset" start readCount)

def print : List String → Printer Unit
  | rate :: tic :: encoding :: channels => do
    let hz ← argument "sample rate" rate readWord
    let ticFrameSize ← argument "tic frame size" tic readWord
    let codec ← argument "codec" encoding readCodec
    match Clock.resolve hz ticFrameSize .reject with
    | .error cause => refuse cause
    | .ok clock =>
      line "\n=== Clock ==="
      line s!"  Sample rate:       {clock.sampleRate.toNat} Hz"
      line s!"  Frame multiplier:  {clock.frameMultiplier.toNat}"
      line s!"  Max samples/packet {clock.maxSamplesPerPacket.toNat}"
      line s!"\n=== Samples per packet ({codec.name}) ==="
      clock.packetOptions.forM (row codec)
      printMap channels
      line ""
  | _ => throw ⟨usage, none⟩

/-- What a run leaves behind: its exit code, and the text on its two outputs. -/
structure Outcome where
  code : UInt32
  stdout : String
  stderr : String
  deriving DecidableEq, Repr

def run (args : List String) : Outcome :=
  match (print args).run "" with
  | .ok _ printed => { code := 0, stdout := printed, stderr := "" }
  | .error failure printed => { code := 1, stdout := printed, stderr := failure.text }

end NetAudio.Report
