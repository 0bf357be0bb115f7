import NetAudio.Net.Address
import NetAudio.Text.Decimal
import NetAudio.Url.Domain
import NetAudio.Url.Number

/-!
# Authorities of URLs

An authority is a host, after an optional user and `@`, and before an optional colon and port.
-/

set_option autoImplicit false

namespace NetAudio.Url

/-- How the text after a scheme is read. -/
inductive Kind where
  /-- Any number of slashes and backslashes, and then an authority. -/
  | network
  /-- A host after two slashes or backslashes, which may be empty. -/
  | file
  /-- An authority after two slashes. -/
  | other
  deriving DecidableEq, Repr

structure Authority where
  user : Option (List Char)
  host : List Char
  port : Option (List Char)
  deriving DecidableEq, Repr

/-- Cuts at the first colon that does not stand between brackets. -/
def cutPort (bracketed : Bool) : List Char → List Char × Option (List Char)
  | [] => ([], none)
  | c :: rest =>
    if c = ':' ∧ bracketed = false then ([], some rest)
    else
      let inside := if c = '[' then true else if c = ']' then false else bracketed
      let (host, port) := cutPort inside rest
      (c :: host, port)

def Authority.ofChars (chars : List Char) : Authority :=
  match Text.cutLast? '@' chars with
  | some (user, rest) =>
    let (host, port) := cutPort false rest
    ⟨some user, host, port⟩
  | none =>
    let (host, port) := cutPort false chars
    ⟨none, host, port⟩

def isBracketedHost (host : List Char) : Bool :=
  match host with
  | '[' :: rest =>
    match rest.reverse with
    | ']' :: inner => Ipv6.isAddress inner.reverse
    | _ => false
  | _ => false

/-- Whether a host names a machine: an address or a domain. -/
def isHost (host : List Char) : Bool :=
  if host.head? = some '[' then isBracketedHost host
  else match domain? host with
    | none => false
    | some domain => !endsInNumber domain || isNumericHost domain

def isForbiddenInHost (c : Char) : Bool :=
  "\x00\t\n\r #/:<>?@[\\]^|".toList.contains c

/-- Whether a host is an address or any text that does not delimit. -/
def isOpaqueHost (host : List Char) : Bool :=
  if host.head? = some '[' then isBracketedHost host else !host.any isForbiddenInHost

/-- Whether a port is empty or a number below `2 ^ 16`.  A backslash ends it. -/
def isPort (port : List Char) : Bool :=
  let digits := port.takeWhile Char.isDigit
  let rest := port.dropWhile Char.isDigit
  (rest.isEmpty || rest.head? = some '\\') &&
    (match Decimal.digits (UInt16.size - 1) 0 digits with
     | .ok _ => true
     | .error _ => false)

/-- Whether the user is neither empty nor a colon alone. -/
def Authority.hasUser (authority : Authority) : Bool :=
  match authority.user with
  | none | some [] | some [':'] => false
  | some _ => true

/-- Whether an authority may stand in a URL that goes on with `rest`. -/
def Authority.isValid (authority : Authority) (kind : Kind) (rest : List Char) : Bool :=
  authority.port.all isPort &&
    match kind with
    | .network => !authority.host.isEmpty && isHost authority.host
    | .file => authority.host.isEmpty || isHost authority.host
    | .other =>
      if authority.host.isEmpty then
        authority.port.isNone && !authority.hasUser && (authority.user != some [] || rest.isEmpty)
      else isOpaqueHost authority.host

end NetAudio.Url
