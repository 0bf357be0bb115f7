import NetAudio.Client.Exchange
import NetAudio.Stream.Sink
import NetAudio.Url.Target

/-!
# A daemon over HTTP

A client sends the calls to the daemon's API, which is below a base URL.
-/

set_option autoImplicit false

namespace NetAudio

/-- A request on its way: where to, and what it carries. -/
structure Outgoing where
  authority : Url.Authority
  method : String
  target : String
  content : Option Json

/-- The network as a client meets it.  When no answer arrives it says why, in words of its own. -/
structure Network where
  answer : Outgoing → Except String Incoming
  /-- What is said of a URL that nothing can be sent to. -/
  unsendable : String → String
  /-- What is said of an answer that does not hold what the call returns. -/
  undecoded : DaemonCall → Incoming → String := fun _ _ => ""

structure RestClient where
  /-- Has no slash at its end. -/
  baseUrl : String
  deriving DecidableEq, Repr

namespace RestClient

def ofUrl (url : String) : RestClient := ⟨trimSlashes url⟩

def url (client : RestClient) (path : String) : String := client.baseUrl ++ "/api" ++ path

/-- The request that a call sends.  Nothing is sent where the URL has no host on the network. -/
def request? (client : RestClient) (call : DaemonCall) : Option Outgoing := do
  let url ← Url.ofText? (client.url call.path)
  if url.kind ≠ .network then none
  return {
    authority := ← url.authority
    method := call.method
    target := url.target
    content := call.content }

def call (client : RestClient) (network : Network) (call : DaemonCall) :
    Except DaemonError DaemonReply :=
  match client.request? call with
  | none => .error (.transport (network.unsendable (client.url call.path)))
  | some outgoing =>
    match network.answer outgoing with
    | .ok answer => answer.result call (network.undecoded call answer)
    | .error cause => .error (.transport cause)

end RestClient

end NetAudio
