import NetAudio.Form.EditForm
import NetAudio.Http.MediaType
import NetAudio.Http.Message
import NetAudio.Http.Query
import NetAudio.Json.Reader
import NetAudio.Wire.Form
import NetAudio.Wire.Stream

/-!
# Inputs of the service

What requests carry in their query, in the last part of their path, and in their body.
-/

set_option autoImplicit false

namespace NetAudio.Service

open Json Http

/-! ## Queries -/

/-- A clock, as the daemon's settings give it. -/
structure ClockRates where
  sampleRate : UInt32
  ticFrameSize : UInt32
  deriving DecidableEq, Repr

def ClockRates.ofQuery (query : List Char) : Except QueryFault ClockRates := do
  let fields := queryFields query
  let sampleRate ← requiredField fields "sample_rate" Decimal.readU32
  let ticFrameSize ← requiredField fields "tic_frame_size_at_1fs" Decimal.readU32
  return { sampleRate, ticFrameSize }

/-- A codec by name and a packet size. -/
structure PacketQuestion where
  codec : String
  samples : UInt32
  deriving DecidableEq, Repr

def PacketQuestion.ofQuery (query : List Char) : Except QueryFault PacketQuestion := do
  let fields := queryFields query
  let codec ← requiredField fields "codec" .ok
  let samples ← requiredField fields "samples_per_packet" Decimal.readU32
  return { codec, samples }

/-- A channel count and the first channel. -/
structure MapQuestion where
  channels : Nat
  start : Nat
  deriving DecidableEq, Repr

def MapQuestion.ofQuery (query : List Char) : Except QueryFault MapQuestion := do
  let fields := queryFields query
  let channels ← requiredField fields "channels" Decimal.readCount
  let start ← optionalField fields "start" Decimal.readCount
  return { channels, start := start.getD 0 }

/-! ## Stream ids -/

/-- The id that the last part of a path gives.  A part that is no number is refused with the head of the
message only; the service goes on with a colon and the cause. -/
def streamId (part : List Char) : Except CalculatorError UInt8 := do
  let read := (Utf8.decode? (Percent.decode part)).map fun chars =>
    Decimal.readU8 (String.ofList chars)
  match read with
  | some (.ok id) =>
    if maxStreams ≤ id.toNat then
      throw (.invalidArgument s!"stream id {id.toNat} outside 0..{maxStreams}")
    return id
  | _ => throw (.invalidArgument "Invalid URL")

/-! ## Bodies -/

/-- Why a body is not what is asked for. -/
inductive BodyFault where
  /-- It is not announced as JSON. -/
  | unannounced
  | unreadable
  | shape
  deriving DecidableEq, Repr

/-- The head of what is told; for the last two the service goes on with a colon and the cause. -/
def BodyFault.message : BodyFault → String
  | .unannounced => "Expected request with `Content-Type: application/json`"
  | .unreadable => "Failed to parse the request body as JSON"
  | .shape => "Failed to deserialize the JSON body into the target type"

/-- The value in the body of a request.  Text after the value does not count.  Not covered are bodies of more
than two megabytes and bodies that are not UTF-8, which the service refuses with a wrapped bad request. -/
def readBody (α : Type) [Wire α] (request : Request) : Except BodyFault α :=
  if !announcesJson request.contentType then .error .unannounced
  else match ofJson (read request.body).root with
    | .ok value => .ok value
    | .error .syntaxFault => .error .unreadable
    | .error .shape => .error .shape

def ClockRates.form : Record ClockRates where
  blank := { sampleRate := 0, ticFrameSize := 0 }
  slots :=
    [.required "sample_rate" (·.sampleRate) ({ · with sampleRate := · }),
      .required "tic_frame_size_at_1fs" (·.ticFrameSize) ({ · with ticFrameSize := · })]

instance : Wire ClockRates := ClockRates.form.wire

/-- A draft, the clock it is for, and what it is edited for. -/
structure FormRequest (δ : Type) where
  draft : δ
  clock : ClockRates
  mode : EditMode

/-- The description of a form request; `blank` is any draft. -/
def FormRequest.form {δ : Type} [Wire δ] (blank : δ) : Record (FormRequest δ) where
  blank := { draft := blank, clock := ClockRates.form.blank, mode := .add }
  slots :=
    [.required "draft" (·.draft) ({ · with draft := · }),
      .required "clock" (·.clock) ({ · with clock := · }),
      .defaulted "mode" (·.mode) ({ · with mode := · })]

instance : Wire (FormRequest SourceDraft) := (FormRequest.form (SourceDraft.withDefaults 0)).wire

instance : Wire (FormRequest SinkDraft) := (FormRequest.form (SinkDraft.withDefaults 0 "")).wire

end NetAudio.Service
