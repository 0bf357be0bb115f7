import NetAudio.Console.Settings
import NetAudio.Poll.Poller
import NetAudio.Service.Input
import NetAudio.Wire.Daemon

/-!
# Endpoints

The eleven things that the service answers.  All of them answer with a wrapped `Reply`; only a query
that cannot be read is answered with plain text.
-/

set_option autoImplicit false

namespace NetAudio.Service

open Json Http

/-! ## Wrapped answers -/

inductive Reply where
  | data (value : Json)
  /-- The request asks for something impossible. -/
  | badRequest (error : String)
  /-- What is asked for has not arrived yet. -/
  | unavailable (error : String)
  deriving Inhabited

namespace Reply

def status : Reply → UInt16
  | .data _ => 200
  | .badRequest _ => 400
  | .unavailable _ => 503

def document : Reply → Json
  | .data value => .object [("success", .bool true), ("data", value)]
  | .badRequest error | .unavailable error =>
    .object [("success", .bool false), ("error", .string error)]

def response (reply : Reply) : Http.Response := ⟨reply.status, .json reply.document⟩

def ofResult : Except CalculatorError Json → Reply
  | .ok value => .data value
  | .error cause => .badRequest cause.message

end Reply

/-! ## Endpoints -/

/-- What the answers depend on. -/
structure State where
  ratePolicy : RatePolicy
  budget : UInt64
  /-- Where the daemon answers, without slashes at the end. -/
  daemonUrl : String
  ptpStatus : Option (Snapshot String PtpStatus)
  remoteSources : Option (Snapshot String (List RemoteSource))

/-- The state of a service for which nothing has been fetched. -/
def State.ofSettings (settings : ConsoleSettings) : State where
  ratePolicy := settings.calculator.ratePolicy
  budget := settings.calculator.maxPacketSize
  daemonUrl := trimSlashes settings.daemon.baseUrl
  ptpStatus := none
  remoteSources := none

inductive Endpoint where
  | packetOptions
  | maxChannels
  | channelMap
  | source
  | sink
  | settings
  | ptpSettings
  /-- The part of the path that names the stream is still to be read. -/
  | defaultSource (id : List Char)
  | defaultSink (id : List Char)
  | ptpStatus
  | remoteSources
  deriving DecidableEq, Repr

namespace Endpoint

/-- The endpoint at a path, which is given by its parts. -/
def ofParts? : List String → Option Endpoint
  | ["api", "calc", "packet-options"] => some .packetOptions
  | ["api", "calc", "max-channels"] => some .maxChannels
  | ["api", "calc", "channel-map"] => some .channelMap
  | ["api", "calc", "source"] => some .source
  | ["api", "calc", "sink"] => some .sink
  | ["api", "calc", "config"] => some .settings
  | ["api", "calc", "ptp-config"] => some .ptpSettings
  | ["api", "calc", "source", "default", id] =>
    if id.isEmpty then none else some (.defaultSource id.toList)
  | ["api", "calc", "sink", "default", id] =>
    if id.isEmpty then none else some (.defaultSink id.toList)
  | ["api", "ptp", "status"] => some .ptpStatus
  | ["api", "remote-sources"] => some .remoteSources
  | _ => none

def ofPath? (path : List Char) : Option Endpoint :=
  match path with
  | '/' :: rest => ofParts? ((Text.split '/' rest).map String.ofList)
  | _ => none

def method : Endpoint → String
  | .source | .sink | .settings | .ptpSettings => "POST"
  | _ => "GET"

/-! ## Calculations -/

def packetOptionsJson (clock : Clock) : Json :=
  .object
    [("frame_multiplier", toJson clock.frameMultiplier),
      ("max_samples_per_packet", toJson clock.maxSamplesPerPacket),
      ("options", .array (clock.packetOptions.map PacketOption.toJson))]

def answerPacketOptions (state : State) (rates : ClockRates) : Reply :=
  .ofResult ((Clock.resolve rates.sampleRate rates.ticFrameSize state.ratePolicy).map
    packetOptionsJson)

def answerMaxChannels (state : State) (question : PacketQuestion) : Reply :=
  .ofResult do
    let codec ← Codec.ofName question.codec
    let limit ← maxChannelsWithin codec question.samples state.budget
    return .object
      [("codec", toJson codec), ("samples_per_packet", toJson question.samples),
        ("max_channels", toJson limit)]

def answerChannelMap (question : MapQuestion) : Reply :=
  .ofResult do
    let map ← ChannelMap.contiguous question.channels question.start
    return .object
      [("channel_map", toJson map), ("start_offsets", .array (map.startOffsets.map .ofNat))]

/-! ## Forms -/

def answerForm {δ : Type} [StreamDraft δ] (state : State) (request : FormRequest δ) : Reply :=
  match Clock.resolve request.clock.sampleRate request.clock.ticFrameSize state.ratePolicy with
  | .error cause => .badRequest cause.message
  | .ok clock =>
    let form := EditForm.start request.mode request.draft { clock, budget := state.budget }
    .data form.constraints.toJson

/-- Answers with what a body gives, or says what is wrong with it. -/
def answerBody {α : Type} (body : Except BodyFault α) (answer : α → Reply) : Reply :=
  match body with
  | .ok value => answer value
  | .error fault => .badRequest fault.message

/-! ## Snapshots -/

def snapshotJson {α : Type} [Wire α] (snapshot : Snapshot String α) : Json :=
  .object [("value", toJson snapshot.value), ("fetched_at", .string snapshot.fetchedAt)]

def answerLatest {α : Type} [Wire α] (latest : Option (Snapshot String α)) (what : String) : Reply :=
  match latest with
  | some snapshot => .data (snapshotJson snapshot)
  | none => .unavailable s!"No {what} available yet"

/-! ## All endpoints -/

def reply (state : State) (request : Request) : Endpoint → Except QueryFault Reply
  | .packetOptions => do
    return answerPacketOptions state (← ClockRates.ofQuery request.target.query)
  | .maxChannels => do
    return answerMaxChannels state (← PacketQuestion.ofQuery request.target.query)
  | .channelMap => do return answerChannelMap (← MapQuestion.ofQuery request.target.query)
  | .source => return answerBody (readBody (FormRequest SourceDraft) request) (answerForm state)
  | .sink => return answerBody (readBody (FormRequest SinkDraft) request) (answerForm state)
  | .settings =>
    return answerBody (readBody SettingsEdit request) fun edit => .data edit.validate.toJson
  | .ptpSettings =>
    return answerBody (readBody PtpSettings request) fun ptp => .data ptp.validate.toJson
  | .defaultSource id =>
    return .ofResult ((streamId id).map fun id => toJson (SourceDraft.withDefaults id))
  | .defaultSink id =>
    return .ofResult ((streamId id).map fun id => toJson (SinkDraft.withDefaults id state.daemonUrl))
  | .ptpStatus => return answerLatest state.ptpStatus "PTP status"
  | .remoteSources => return answerLatest state.remoteSources "remote source list"

/-- The head of what is told; the service goes on with a colon and the cause. -/
def queryMessage : String := "Failed to deserialize query string"

def respond (state : State) (request : Request) (endpoint : Endpoint) : Response :=
  match endpoint.reply state request with
  | .ok reply => reply.response
  | .error _ => ⟨400, .text queryMessage⟩

end Endpoint

end NetAudio.Service
