import NetAudio.Service.Endpoint
import NetAudio.Service.StaticFiles

/-!
# Routing

A request goes to the endpoint at its path, else to the static files, if there are any.  `HEAD` is
answered like `GET` without content, and `OPTIONS` with nothing at any path.
-/

set_option autoImplicit false

namespace NetAudio.Service

open Http

/-- The service: its state and the files it hands out besides. -/
structure Console where
  state : State
  files : Option StaticFiles

namespace Console

def effectiveMethod (request : Request) : String :=
  if request.method = "HEAD" then "GET" else request.method

/-- The answer before `HEAD` takes its content away. -/
def dispatch (console : Console) (request : Request) : Response :=
  match Endpoint.ofPath? request.target.path with
  | some endpoint =>
    if endpoint.method = effectiveMethod request then endpoint.respond console.state request
    else .empty 405
  | none =>
    match console.files with
    | some files => files.respond request
    | none => .empty 404

def respond (console : Console) (request : Request) : Response :=
  if request.method = "OPTIONS" then .empty 200
  else
    let response := console.dispatch request
    if request.method = "HEAD" then .empty response.status else response

end Console

end NetAudio.Service
