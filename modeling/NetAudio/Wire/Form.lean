import NetAudio.Wire.Words
import NetAudio.Form.EditForm
import NetAudio.Form.SettingsChecks

/-!
# JSON forms of validations and forms
-/

set_option autoImplicit false

namespace NetAudio

open Json

def EditMode.word : EditMode → String
  | .add => "add"
  | .edit => "edit"

def EditMode.choices : List (String × EditMode) :=
  [EditMode.add, .edit].map fun mode => (mode.word, mode)

instance : Wire EditMode := ⟨fun mode => .string mode.word, readChoice EditMode.choices⟩

def Issue.toJson : Issue → Json
  | .required => .object [("kind", .string "required")]
  | .outOfRange value min max =>
    .object [("kind", .string "out_of_range"), ("value", .ofNat value), ("min", .ofNat min),
      ("max", .ofNat max)]
  | .malformed => .object [("kind", .string "malformed")]
  | .notOffered => .object [("kind", .string "not_offered")]
  | .capacityExceeded value limit =>
    .object [("kind", .string "capacity_exceeded"), ("value", .ofNat value), ("limit", .ofNat limit)]

/-- The issues, each under the label of its field. -/
def Validation.errorsJson (validation : Validation) : Json :=
  .object (validation.errors.map fun (field, issue) => (field.label, issue.toJson))

def Validation.toJson (validation : Validation) : Json :=
  .object [("errors", validation.errorsJson)]

def FormConstraints.toJson (constraints : FormConstraints) : Json :=
  .object
    [("kind", Json.toJson constraints.kind),
      ("frame_multiplier", Json.toJson constraints.frameMultiplier),
      ("max_samples_per_packet", Json.toJson constraints.maxSamplesPerPacket),
      ("packet_options", .array (constraints.packetOptions.map PacketOption.toJson)),
      ("max_channels", Json.toJson constraints.maxChannels),
      ("start_offsets", .array (constraints.startOffsets.map .ofNat)),
      ("channel_map", Json.toJson constraints.channelMap),
      ("valid", .bool constraints.validation.isValid),
      ("errors", constraints.validation.errorsJson)]

end NetAudio
