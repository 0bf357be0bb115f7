import NetAudio.Text.Parts

/-!
# IP addresses

An IPv4 address is written in the canonical dotted form: four decimal numbers of one to three digits below
256, without leading zeros and with nothing before, between or after.

An IPv6 address is eight groups of one to four hexadecimal digits between colons.  One run of at least one
empty group may be written as two colons, and the last two groups may be written as an IPv4 address.
-/

set_option autoImplicit false

namespace NetAudio

structure Ipv4 where
  a : UInt8
  b : UInt8
  c : UInt8
  d : UInt8
  deriving DecidableEq, Repr

namespace Ipv4

def octet? (digits : List Char) : Option UInt8 :=
  let value := digits.foldl (fun acc c => acc * 10 + (c.toNat - '0'.toNat)) 0
  if digits.isEmpty ∨ 3 < digits.length ∨ !digits.all Char.isDigit then none
  else if digits.head? = some '0' ∧ 1 < digits.length then none
  else if value < 256 then some (UInt8.ofNat value)
  else none

def ofChars? (chars : List Char) : Option Ipv4 :=
  match (Text.split '.' chars).mapM octet? with
  | some [a, b, c, d] => some ⟨a, b, c, d⟩
  | _ => none

def ofText? (text : String) : Option Ipv4 := ofChars? text.toList

def isMulticast (address : Ipv4) : Bool := 224 ≤ address.a && address.a ≤ 239

end Ipv4

end NetAudio

namespace NetAudio.Ipv6

def isHexDigit (c : Char) : Bool :=
  c.isDigit || ('a' ≤ c && c ≤ 'f') || ('A' ≤ c && c ≤ 'F')

def isGroup (part : List Char) : Bool :=
  0 < part.length && part.length ≤ 4 && part.all isHexDigit

/-- The number of groups that the parts stand for.  The last may be an IPv4 address, which stands
for two. -/
def countParts? : List (List Char) → Option Nat
  | [] => some 0
  | [last] =>
    if isGroup last then some 1 else if (Ipv4.ofChars? last).isSome then some 2 else none
  | part :: rest => if isGroup part then (countParts? rest).map (· + 1) else none

/-- The number of groups in a text; the empty text has none. -/
def countGroups? (chars : List Char) : Option Nat :=
  if chars.isEmpty then some 0 else countParts? (Text.split ':' chars)

/-- What stands before and after the first two colons in a row. -/
def cutDouble? : List Char → Option (List Char × List Char)
  | ':' :: ':' :: rest => some ([], rest)
  | [] => none
  | c :: rest => (cutDouble? rest).map fun (before, after) => (c :: before, after)

def isAddress (chars : List Char) : Bool :=
  match cutDouble? chars with
  | none => countGroups? chars == some 8
  | some (before, after) =>
    -- An IPv4 address may only stand at the very end.
    match countGroups? before, countGroups? after with
    | some head, some tail => !before.contains '.' && head + tail ≤ 7
    | _, _ => false

end NetAudio.Ipv6
