import NetAudio.Json.Basic
import NetAudio.Text.Parts

/-!
# Requests and responses

A request is sent to a target: a path and a query.  A target is written as a path, as a host, as `*`, or
as a whole URL with scheme and host; what is not written stays empty.  A fragment is dropped.
-/

set_option autoImplicit false

namespace NetAudio.Http

/-! ## Targets -/

structure Target where
  path : List Char
  query : List Char
  deriving DecidableEq, Repr

namespace Target

def maxBytes : Nat := 65534

def isPathChar (c : Char) : Bool :=
  let n := c.toNat
  n = 0x21 || n = 0x22 || (0x24 ≤ n && n ≤ 0x3B) || n = 0x3D || (0x40 ≤ n && n ≤ 0x5F) ||
    (0x61 ≤ n && n ≤ 0x7E) || 0x7F ≤ n

def isQueryChar (c : Char) : Bool :=
  let n := c.toNat
  n = 0x21 || (0x24 ≤ n && n ≤ 0x3B) || n = 0x3D || 0x3F ≤ n

/-- The characters of a host with its user and port, and those that end it. -/
def isHostChar (c : Char) : Bool :=
  c.isAlphanum || "!$&'()*+,-.:;=@[]_~%".toList.contains c

def ofPathAndQuery? (chars : List Char) : Option Target :=
  let text := chars.takeWhile (· ≠ '#')
  let path := text.takeWhile (· ≠ '?')
  let query := (text.dropWhile (· ≠ '?')).drop 1
  if path.all isPathChar && query.all isQueryChar then some ⟨path, query⟩ else none

/-- What has been seen of a host: colons and percent signs since the last `@` or bracket, and the
brackets. -/
structure HostScan where
  colons : Nat
  percent : Bool
  opened : Bool
  closed : Bool

def HostScan.step (scan : HostScan) (c : Char) : Option HostScan :=
  match c with
  | ':' => if scan.colons < 8 then some { scan with colons := scan.colons + 1 } else none
  | '[' => if scan.percent || scan.opened then none else some { scan with opened := true }
  | ']' =>
    if !scan.opened || scan.closed then none
    else some { scan with colons := 0, percent := false, closed := true }
  | '@' => some { scan with colons := 0, percent := false }
  | '%' => some { scan with percent := true }
  | c => if isHostChar c then some scan else none

/-- Whether a text is a host with an optional user and port. -/
def isHost (chars : List Char) : Bool :=
  match chars.foldlM HostScan.step ⟨0, false, false, false⟩ with
  | none => false
  | some scan =>
    scan.opened == scan.closed && scan.colons ≤ 1 && !scan.percent && chars.getLast? != some '@'

def isSchemeChar (c : Char) : Bool := c.isAlphanum || c = '+' || c = '-' || c = '.'

/-- What stands after a scheme and `://`. -/
def afterScheme? (chars : List Char) : Option (List Char) :=
  match chars.dropWhile isSchemeChar with
  | ':' :: '/' :: '/' :: rest => some rest
  | _ => none

def maxScheme : Nat := 64

def ofText? (text : String) : Option Target :=
  let chars := text.toList
  if text.utf8ByteSize > maxBytes ∨ chars.isEmpty then none
  else if chars.head? = some '/' then ofPathAndQuery? chars
  else if chars = ['*'] then some ⟨chars, []⟩
  else
    let ends (c : Char) : Bool := c = '/' || c = '?' || c = '#'
    match afterScheme? chars with
    | none => if isHost chars then some ⟨[], []⟩ else none
    | some rest =>
      let host := rest.takeWhile (!ends ·)
      if (chars.takeWhile isSchemeChar).length > maxScheme ∨ host.isEmpty ∨ !isHost host then none
      else (ofPathAndQuery? (rest.dropWhile (!ends ·))).map fun target =>
        { target with path := if target.path.isEmpty then ['/'] else target.path }

end Target

/-! ## Messages -/

/-- A request that a service receives.  Its body is a text of any length; one that is not UTF-8 has no
place here. -/
structure Request where
  method : String
  target : Target
  contentType : Option String
  body : String
  deriving DecidableEq, Repr

/-- What a response carries. -/
inductive Body where
  | json (document : Json)
  | text (text : String)
  deriving Inhabited

structure Response where
  status : UInt16
  body : Body
  deriving Inhabited

def Response.empty (status : UInt16) : Response := ⟨status, .text ""⟩

end NetAudio.Http
