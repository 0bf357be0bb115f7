/-!
# Texts as bytes

UTF-8 is read from the left.  A byte that cannot begin a character, and a character that is broken off, each
count as one fault; the byte that breaks a character off is read again as the beginning of the next.

In percent encoding a byte may be written as `%` and two hexadecimal digits.  A `%` before anything else
stands for itself.
-/

set_option autoImplicit false

namespace NetAudio.Utf8

/-- A character that has begun: its bits so far, the number of bytes to come, and the least and the
greatest value of the next byte. -/
structure Begun where
  bits : Nat
  missing : Nat
  low : Nat
  high : Nat
  deriving DecidableEq, Repr

/-- What a first byte begins. -/
inductive Opening where
  | whole (c : Char)
  | begun (state : Begun)
  | fault

/-- The meaning of a byte between characters. -/
def opening (byte : Nat) : Opening :=
  if byte ≤ 0x7F then .whole (Char.ofNat byte)
  else if 0xC2 ≤ byte ∧ byte ≤ 0xDF then .begun ⟨byte - 0xC0, 1, 0x80, 0xBF⟩
  else if byte = 0xE0 then .begun ⟨0, 2, 0xA0, 0xBF⟩
  else if byte = 0xED then .begun ⟨0x0D, 2, 0x80, 0x9F⟩
  else if 0xE1 ≤ byte ∧ byte ≤ 0xEF then .begun ⟨byte - 0xE0, 2, 0x80, 0xBF⟩
  else if byte = 0xF0 then .begun ⟨0, 3, 0x90, 0xBF⟩
  else if byte = 0xF4 then .begun ⟨4, 3, 0x80, 0x8F⟩
  else if 0xF1 ≤ byte ∧ byte ≤ 0xF3 then .begun ⟨byte - 0xF0, 3, 0x80, 0xBF⟩
  else .fault

/-- The characters that a byte finishes, and the character that is begun after it. -/
def start (byte : Nat) : List (Option Char) × Option Begun :=
  match opening byte with
  | .whole c => ([some c], none)
  | .begun state => ([], some state)
  | .fault => ([none], none)

def step (state : Option Begun) (byte : Nat) : List (Option Char) × Option Begun :=
  match state with
  | none => start byte
  | some begun =>
    if begun.low ≤ byte ∧ byte ≤ begun.high then
      let bits := begun.bits * 64 + (byte - 0x80)
      if begun.missing ≤ 1 then ([some (Char.ofNat bits)], none)
      else ([], some ⟨bits, begun.missing - 1, 0x80, 0xBF⟩)
    else
      let (found, next) := start byte
      (none :: found, next)

/-- The characters of a byte sequence; a fault is `none`. -/
def scan (state : Option Begun) : List UInt8 → List (Option Char)
  | [] => if state.isSome then [none] else []
  | byte :: rest =>
    let (found, next) := step state byte.toNat
    found ++ scan next rest

def decode? (bytes : List UInt8) : Option (List Char) := (scan none bytes).mapM id

/-- The characters of a byte sequence, with the replacement character for each fault. -/
def decodeLossy (bytes : List UInt8) : List Char :=
  (scan none bytes).map fun c => c.getD '\uFFFD'

def encode (chars : List Char) : List UInt8 := (String.ofList chars).toUTF8.toList

end NetAudio.Utf8

namespace NetAudio.Percent

def hexValue? (c : Char) : Option Nat :=
  if c.isDigit then some (c.toNat - '0'.toNat)
  else if 'a' ≤ c ∧ c ≤ 'f' then some (c.toNat - 'a'.toNat + 10)
  else if 'A' ≤ c ∧ c ≤ 'F' then some (c.toNat - 'A'.toNat + 10)
  else none

def byte? (high low : Char) : Option UInt8 := do
  return UInt8.ofNat ((← hexValue? high) * 16 + (← hexValue? low))

def decode : List Char → List UInt8
  | '%' :: high :: low :: rest =>
    match byte? high low with
    | some byte => byte :: decode rest
    | none => Utf8.encode ['%'] ++ decode (high :: low :: rest)
  | c :: rest => Utf8.encode [c] ++ decode rest
  | [] => []

def hexDigit (n : Nat) : Char :=
  if n < 10 then Char.ofNat ('0'.toNat + n) else Char.ofNat ('A'.toNat + (n - 10))

def encodeByte (byte : UInt8) : List Char :=
  ['%', hexDigit (byte.toNat / 16), hexDigit (byte.toNat % 16)]

/-- Writes the characters of a set, and all that are not ASCII, in their written form. -/
def encode (escaped : Char → Bool) (chars : List Char) : List Char :=
  chars.flatMap fun c =>
    if escaped c || 0x7F ≤ c.toNat || c.toNat < 0x20 then (Utf8.encode [c]).flatMap encodeByte
    else [c]

end NetAudio.Percent
