import NetAudio.Client.Rest
import NetAudio.Proofs.Client.Paths
import NetAudio.Proofs.Wire.Documents

/-!
# Requests and the calls that they stand for

A server tells the operations apart by the method and the parts of the path below its API, and takes
their arguments from the last part and from the content.  The request of a call stands for that call.
-/

set_option autoImplicit false

namespace NetAudio

open Json

/-- Where an API is: the host, and the path above it with the slash at its end. -/
structure ApiRoot where
  authority : Url.Authority
  path : String

namespace ApiRoot

def contentOf? (α : Type) [Wire α] (content : Option Json) : Option α := do
  match ofJson (readWhole (← content).write) with
  | .ok value => some value
  | .error _ => none

def idOf? (part : String) : Option UInt8 :=
  match Decimal.readU8 part with
  | .ok id => some id
  | .error _ => none

/-- The operations of the API.  A record that is put gets the id of the path. -/
def operation? (method : String) (parts : List String) (content : Option Json) : Option DaemonCall :=
  match method, parts with
  | "GET", ["config"] => some .settings
  | "POST", ["config"] => (contentOf? SettingsEdit content).map .setSettings
  | "GET", ["version"] => some .version
  | "GET", ["ptp", "config"] => some .ptpSettings
  | "POST", ["ptp", "config"] => (contentOf? PtpSettings content).map .setPtpSettings
  | "GET", ["ptp", "status"] => some .ptpStatus
  | "GET", ["sources"] => some .sources
  | "GET", ["sinks"] => some .sinks
  | "GET", ["streams"] => some .streams
  | "GET", ["sink", "status", part] => (idOf? part).map .sinkStatus
  | "GET", ["browse", "sources", "all"] => some .remoteSources
  | "GET", ["source", "sdp", part] => (idOf? part).map .sourceSdp
  | "PUT", ["source", part] => do
    let id ← idOf? part
    return .putSource { ← contentOf? Source content with id }
  | "DELETE", ["source", part] => (idOf? part).map .deleteSource
  | "PUT", ["sink", part] => do
    let id ← idOf? part
    return .putSink { ← contentOf? Sink content with id }
  | "DELETE", ["sink", part] => (idOf? part).map .deleteSink
  | _, _ => none

def parts? (root : ApiRoot) (target : String) : Option (List String) :=
  if root.path.toList.isPrefixOf target.toList then
    match Text.split '/' (target.toList.drop root.path.length) with
    | first :: parts => if first = "api".toList then some (parts.map String.ofList) else none
    | [] => none
  else none

def call? (root : ApiRoot) (outgoing : Outgoing) : Option DaemonCall := do
  if outgoing.authority ≠ root.authority then none
  operation? outgoing.method (← root.parts? outgoing.target) outgoing.content

/-! ## Arguments -/

theorem contentOf?_toJson {α : Type} [Wire α] [Faithful α] (value : α) :
    contentOf? α (some (toJson value)) = some value := by
  simp [contentOf?, ofJson_readWhole_write]

theorem idOf?_repr (id : UInt8) : idOf? id.toNat.repr = some id := by
  have bound : id.toNat ≤ UInt8.size - 1 := Nat.le_of_lt_succ id.toNat_lt_size
  rw [idOf?, Decimal.readU8, Decimal.read_repr bound]
  simp [Except.map]

/-! ## Parts of paths -/

def Divides (path : String) (parts : List String) : Prop :=
  Text.split '/' ("api" ++ path).toList = "api".toList :: parts.map String.toList

instance (path : String) (parts : List String) : Decidable (Divides path parts) :=
  inferInstanceAs (Decidable (_ = _))

theorem divides_id {stem front : String} {parts : List String}
    (ended : stem = front ++ "/") (divides : Divides front parts) (id : UInt8) :
    Divides (stem ++ id.toNat.repr) (parts ++ [id.toNat.repr]) := by
  have slash : ("api" ++ (stem ++ id.toNat.repr)).toList =
      ("api" ++ front).toList ++ '/' :: id.toNat.repr.toList := by
    simp [ended, String.toList_append]
  rw [Divides, slash, Text.split_append_cons, Text.split_of_not_mem (slash_not_mem_id id), divides]
  simp

theorem operation?_of_call (call : DaemonCall) : ∃ parts,
    Divides call.path parts ∧ operation? call.method parts call.content = some call := by
  have source : Divides "/source" ["source"] := by decide
  have sink : Divides "/sink" ["sink"] := by decide
  cases call with
  | setSettings edit =>
      exact ⟨["config"], (by decide : Divides "/config" _),
        by simp [operation?, DaemonCall.method, DaemonCall.content, contentOf?_toJson]⟩
  | setPtpSettings ptp =>
      exact ⟨["ptp", "config"], (by decide : Divides "/ptp/config" _),
        by simp [operation?, DaemonCall.method, DaemonCall.content, contentOf?_toJson]⟩
  | sinkStatus id =>
      have stem : Divides "/sink/status" ["sink", "status"] := by decide
      exact ⟨_, divides_id (by decide) stem id, by simp [operation?, DaemonCall.method, idOf?_repr]⟩
  | sourceSdp id =>
      have stem : Divides "/source/sdp" ["source", "sdp"] := by decide
      exact ⟨_, divides_id (by decide) stem id, by simp [operation?, DaemonCall.method, idOf?_repr]⟩
  | putSource record =>
      exact ⟨_, divides_id (by decide) source record.id, by
        simp [operation?, DaemonCall.method, DaemonCall.content, contentOf?_toJson, idOf?_repr]⟩
  | deleteSource id =>
      exact ⟨_, divides_id (by decide) source id, by simp [operation?, DaemonCall.method, idOf?_repr]⟩
  | putSink record =>
      exact ⟨_, divides_id (by decide) sink record.id, by
        simp [operation?, DaemonCall.method, DaemonCall.content, contentOf?_toJson, idOf?_repr]⟩
  | deleteSink id =>
      exact ⟨_, divides_id (by decide) sink id, by simp [operation?, DaemonCall.method, idOf?_repr]⟩
  | settings => exact ⟨["config"], by decide, rfl⟩
  | version => exact ⟨["version"], by decide, rfl⟩
  | ptpSettings => exact ⟨["ptp", "config"], by decide, rfl⟩
  | ptpStatus => exact ⟨["ptp", "status"], by decide, rfl⟩
  | sources => exact ⟨["sources"], by decide, rfl⟩
  | sinks => exact ⟨["sinks"], by decide, rfl⟩
  | streams => exact ⟨["streams"], by decide, rfl⟩
  | remoteSources => exact ⟨["browse", "sources", "all"], by decide, rfl⟩

theorem parts?_append (root : ApiRoot) {path : String} {parts : List String}
    (divides : Divides path parts) : root.parts? (root.path ++ "api" ++ path) = some parts := by
  have below : (root.path ++ "api" ++ path).toList = root.path.toList ++ ("api" ++ path).toList := by
    simp [String.toList_append]
  rw [parts?, below, if_pos (by simp), ← String.length_toList, List.drop_left, divides]
  simp

end ApiRoot

/-! ## Requests -/

namespace RestClient

def speaksHttp (client : RestClient) : Bool :=
  ["http://", "https://"].any fun scheme => scheme.toList.isPrefixOf client.baseUrl.toList

/-- The API that a client's requests come to, if it has the URL of a server that speaks HTTP, without
query and fragment. -/
def root? (client : RestClient) : Option ApiRoot := do
  let url ← Url.ofText? (client.baseUrl ++ "/")
  if !client.speaksHttp ∨ url.kind ≠ .network ∨ '?' ∈ url.rest ∨ '#' ∈ url.rest then none
  return { authority := ← url.authority, path := url.target }

def requestOf (root : ApiRoot) (call : DaemonCall) : Outgoing where
  authority := root.authority
  method := call.method
  target := root.path ++ "api" ++ call.path
  content := call.content

/-- The URL of a call keeps the host of the base URL, and its target is below that of the base URL. -/
theorem ofText?_url {client : RestClient} {base : Url}
    (read : Url.ofText? (client.baseUrl ++ "/") = some base) (network : base.kind = .network)
    (noQuery : '?' ∉ base.rest) (noFragment : '#' ∉ base.rest) (call : DaemonCall) :
    ∃ full, Url.ofText? (client.url call.path) = some full ∧ full.kind = .network ∧
      full.authority = base.authority ∧ full.target = base.target ++ "api" ++ call.path := by
  obtain ⟨rest, ended, append⟩ := Url.ofText?_append read network
  have plain : Url.Plain ("api" ++ call.path).toList := by
    rw [String.toList_append]
    exact Url.Plain.append (by decide) call.plain_path
  have whole : client.url call.path = client.baseUrl ++ "/" ++ ("api" ++ call.path) := by
    apply String.toList_inj.mp
    simp [RestClient.url, String.toList_append]
  rw [whole, append _ plain]
  refine ⟨_, rfl, network, rfl, ?_⟩
  apply String.toList_inj.mp
  rw [Url.target_append ended noQuery noFragment plain]
  simp [String.toList_append]

theorem request?_of_root {client : RestClient} {root : ApiRoot} (found : client.root? = some root)
    (call : DaemonCall) : client.request? call = some (requestOf root call) := by
  cases read : Url.ofText? (client.baseUrl ++ "/") with
  | none => simp [root?, read] at found
  | some base =>
      simp only [root?, read, Option.bind_eq_bind, Option.bind_some] at found
      split at found
      · cases found
      · next clean =>
          simp only [not_or, not_not] at clean
          obtain ⟨-, network, noQuery, noFragment⟩ := clean
          obtain ⟨authority, named, same⟩ := Option.bind_eq_some_iff.mp found
          cases same
          obtain ⟨full, parsed, kind, host, target⟩ :=
            ofText?_url read network noQuery noFragment call
          simp [request?, parsed, kind, host, named, target, requestOf]

theorem call?_requestOf (root : ApiRoot) (call : DaemonCall) :
    root.call? (requestOf root call) = some call := by
  obtain ⟨parts, divides, leads⟩ := ApiRoot.operation?_of_call call
  simp [ApiRoot.call?, requestOf, root.parts?_append divides, leads]

end RestClient

end NetAudio
