import NetAudio.Dscp
import NetAudio.Json.Record
import NetAudio.Packet
import NetAudio.Stream

/-!
# JSON forms of words and maps

Words of fixed lists, numbers of fixed lists, and channel maps.
-/

set_option autoImplicit false

namespace NetAudio

open Json

def Codec.choices : List (String × Codec) := Codec.all.map fun codec => (codec.name, codec)

instance : Wire Codec := ⟨fun codec => .string codec.name, readChoice Codec.choices⟩

/-- A value that a checked conversion may refuse; a refusal counts as another shape. -/
def readChecked {α β ε : Type} [Wire α] (check : α → Except ε β) (doc : Json) :
    Except Fault β := do
  match check (← ofJson doc) with
  | .ok value => return value
  | .error _ => throw .shape

instance : Wire Dscp := ⟨fun dscp => toJson dscp.codepoint, readChecked Dscp.ofCodepoint⟩

instance : Wire SampleRate := ⟨fun rate => toJson rate.hz, readChecked SampleRate.ofHz⟩

instance : Wire ChannelMap := ⟨fun map => toJson map.indices, readChecked ChannelMap.ofIndices⟩

def RatePolicy.word : RatePolicy → String
  | .reject => "reject"
  | .degradeToBase => "degrade_to_base"

def RatePolicy.choices : List (String × RatePolicy) :=
  [RatePolicy.reject, .degradeToBase].map fun policy => (policy.word, policy)

instance : Wire RatePolicy := ⟨fun policy => .string policy.word, readChoice RatePolicy.choices⟩

def StreamKind.word : StreamKind → String
  | .source => "source"
  | .sink => "sink"

def StreamKind.choices : List (String × StreamKind) :=
  [StreamKind.source, .sink].map fun kind => (kind.word, kind)

instance : Wire StreamKind := ⟨fun kind => .string kind.word, readChoice StreamKind.choices⟩

def PacketOption.toJson (option : PacketOption) : Json :=
  .object [("samples", .ofNat option.samples.toNat), ("allowed", .bool option.allowed)]

end NetAudio
