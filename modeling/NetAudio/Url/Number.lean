import NetAudio.Text.Bytes
import NetAudio.Text.Parts

/-!
# Hosts that end in a number

A host whose last part is a number is an IPv4 address, and then all its parts are: one to four
numbers in decimal, octal (after `0`) or hexadecimal (after `0x`), each below 256 but the last, which
fills the bytes that are left.  One dot may follow the last part.
-/

set_option autoImplicit false

namespace NetAudio.Url

/-- The base and the digits of a part. -/
def numberDigits : List Char → Nat × List Char
  | '0' :: 'x' :: digits => (16, digits)
  | '0' :: 'X' :: digits => (16, digits)
  | '0' :: c :: digits => (8, c :: digits)
  | digits => (10, digits)

/-- The value of a part, which is any number. -/
def number? (part : List Char) : Option Nat :=
  let (base, digits) := numberDigits part
  if part.isEmpty then none
  else digits.foldlM (fun value c => do
    let digit ← Percent.hexValue? c
    if digit < base then some (value * base + digit) else none) 0

/-- The parts between the dots, without an empty last one. -/
def hostParts (host : List Char) : List (List Char) :=
  let parts := Text.split '.' host
  match parts.reverse with
  | [] :: before :: rest => (before :: rest).reverse
  | _ => parts

def endsInNumber (host : List Char) : Bool :=
  match (hostParts host).getLast? with
  | none => false
  | some last => (!last.isEmpty && last.all Char.isDigit) || (number? last).isSome

/-- Whether the parts are the bytes of an address, the last one filling those that are left. -/
def isNumericHost (host : List Char) : Bool :=
  let parts := hostParts host
  match parts.mapM number? with
  | none => false
  | some numbers =>
    numbers.length ≤ 4 && numbers.dropLast.all (· < 256) &&
      (match numbers.getLast? with
       | none => false
       | some last => last < Nat.pow 256 (5 - numbers.length))

end NetAudio.Url
