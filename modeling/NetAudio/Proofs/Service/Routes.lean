import NetAudio.Proofs.Text.Parts
import NetAudio.Service.Router

/-!
# Where endpoints are

Every endpoint has its path; the path of a default form ends in the part that names the stream.  A
request with the method of an endpoint, sent there, reaches it.
-/

set_option autoImplicit false

namespace NetAudio.Service

open Http

namespace Endpoint

def path : Endpoint → List Char
  | .packetOptions => "/api/calc/packet-options".toList
  | .maxChannels => "/api/calc/max-channels".toList
  | .channelMap => "/api/calc/channel-map".toList
  | .source => "/api/calc/source".toList
  | .sink => "/api/calc/sink".toList
  | .settings => "/api/calc/config".toList
  | .ptpSettings => "/api/calc/ptp-config".toList
  | .defaultSource id => "/api/calc/source/default/".toList ++ id
  | .defaultSink id => "/api/calc/sink/default/".toList ++ id
  | .ptpStatus => "/api/ptp/status".toList
  | .remoteSources => "/api/remote-sources".toList

def IsNamed : Endpoint → Prop
  | .defaultSource id | .defaultSink id => id ≠ [] ∧ '/' ∉ id
  | _ => True

theorem ofPath?_path {endpoint : Endpoint} (named : endpoint.IsNamed) :
    ofPath? endpoint.path = some endpoint := by
  cases endpoint with
  | defaultSource id =>
      obtain ⟨some, whole⟩ := named
      show ofPath? ('/' :: ("api/calc/source/default".toList ++ '/' :: id)) = _
      rw [ofPath?, Text.split_concat whole]
      show ofParts? ["api", "calc", "source", "default", String.ofList id] = _
      simp [ofParts?, some]
  | defaultSink id =>
      obtain ⟨some, whole⟩ := named
      show ofPath? ('/' :: ("api/calc/sink/default".toList ++ '/' :: id)) = _
      rw [ofPath?, Text.split_concat whole]
      show ofParts? ["api", "calc", "sink", "default", String.ofList id] = _
      simp [ofParts?, some]
  | _ => decide

/-- A request with the method of an endpoint, sent to where it is, is answered there. -/
theorem respond_eq (console : Console) {request : Request} {endpoint : Endpoint}
    (named : endpoint.IsNamed) (sent : request.target.path = endpoint.path)
    (declared : request.method = endpoint.method) :
    console.respond request = endpoint.respond console.state request := by
  have verbs : endpoint.method = "GET" ∨ endpoint.method = "POST" := by
    cases endpoint with
    | source | sink | settings | ptpSettings => exact .inr rfl
    | _ => exact .inl rfl
  have routed : ofPath? request.target.path = some endpoint := by
    rw [sent]
    exact ofPath?_path named
  have plain : request.method ≠ "OPTIONS" ∧ request.method ≠ "HEAD" := by
    rw [declared]
    rcases verbs with verb | verb <;> rw [verb] <;> decide
  have kept : Console.effectiveMethod request = endpoint.method := by
    rw [Console.effectiveMethod, if_neg plain.2, declared]
  rw [Console.respond, if_neg plain.1, if_neg plain.2, Console.dispatch, routed]
  simp only [kept, if_true]

end Endpoint

end NetAudio.Service
