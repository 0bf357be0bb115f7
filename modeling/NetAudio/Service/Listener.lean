import NetAudio.Console.Settings
import NetAudio.Net.Address
import NetAudio.Text.Decimal

/-!
# Where the service listens

At a socket address: an IPv4 address, or an IPv6 address between brackets with an optional scope number,
followed by a colon and a port.
-/

set_option autoImplicit false

namespace NetAudio.SocketAddress

/-- Whether the characters are digits of a number that is at most `max`. -/
def isNumber (max : Nat) (chars : List Char) : Bool :=
  !chars.isEmpty && (match Decimal.digits max 0 chars with | .ok _ => true | .error _ => false)

/-- An IPv6 address with an optional scope number after `%`. -/
def isScopedIpv6 (chars : List Char) : Bool :=
  match Text.cutFirst? '%' chars with
  | none => Ipv6.isAddress chars
  | some (address, scope) => Ipv6.isAddress address && isNumber (UInt32.size - 1) scope

def isHost (chars : List Char) : Bool :=
  match chars with
  | '[' :: rest =>
    match rest.reverse with
    | ']' :: inner => isScopedIpv6 inner.reverse
    | _ => false
  | _ => (Ipv4.ofChars? chars).isSome

/-- Whether a text is a host address and a port. -/
def isValid (text : String) : Bool :=
  match Text.cutLast? ':' text.toList with
  | none => false
  | some (host, port) => isHost host && isNumber (UInt16.size - 1) port

end NetAudio.SocketAddress

namespace NetAudio.ServiceSettings

def listenText (settings : ServiceSettings) : String :=
  settings.bindAddress ++ s!":{settings.httpPort.toNat}"

/-- The socket address to listen at, as text. -/
def listenAddress (settings : ServiceSettings) : Except ConsoleError String :=
  if SocketAddress.isValid settings.listenText then .ok settings.listenText
  else .error (.settings
    ("invalid bind address " ++ settings.listenText ++ ": invalid socket address syntax"))

end NetAudio.ServiceSettings
