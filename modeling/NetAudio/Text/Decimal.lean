/-!
# Decimal numbers

A number is an optional `+` and at least one ASCII digit.  Characters are judged from the left:
a character that is no digit is reported before an overflow caused by that same character, and an
overflow before anything to its right.  Numbers with a fraction or an exponent are only judged by
their size.
-/

set_option autoImplicit false

namespace NetAudio.Decimal

/-- Why a text is not a number below a given bound. -/
inductive Fault where
  | empty
  | invalidDigit
  | tooLarge
  deriving DecidableEq, Repr

def Fault.message : Fault → String
  | .empty => "cannot parse integer from empty string"
  | .invalidDigit => "invalid digit found in string"
  | .tooLarge => "number too large to fit in target type"

def digit? (c : Char) : Option Nat :=
  if c.isDigit then some (c.toNat - '0'.toNat) else none

/-- Continues the number `acc` with the given characters. -/
def digits (max : Nat) : Nat → List Char → Except Fault Nat
  | acc, [] => .ok acc
  | acc, c :: rest =>
    match digit? c with
    | none => .error .invalidDigit
    | some d => if acc * 10 + d ≤ max then digits max (acc * 10 + d) rest else .error .tooLarge

/-- Reads a number that is at most `max`. -/
def read (max : Nat) (text : String) : Except Fault Nat :=
  match text.toList with
  | [] => .error .empty
  | ['+'] => .error .invalidDigit
  | '+' :: rest => digits max 0 rest
  | chars => digits max 0 chars

def readU8 (text : String) : Except Fault UInt8 :=
  (read (UInt8.size - 1) text).map UInt8.ofNat

def readU16 (text : String) : Except Fault UInt16 :=
  (read (UInt16.size - 1) text).map UInt16.ofNat

def readU32 (text : String) : Except Fault UInt32 :=
  (read (UInt32.size - 1) text).map UInt32.ofNat

/-- Reads a count or an offset: any number below `2 ^ 64`. -/
def readCount (text : String) : Except Fault Nat :=
  read (UInt64.size - 1) text

/-! ## Size -/

def valueOf (digits : List Char) : Nat :=
  digits.foldl (fun acc c => acc * 10 + (c.toNat - '0'.toNat)) 0

/-- The least magnitude that no finite double is nearest to. -/
def doubleBound : Nat := Nat.pow 2 1024 - Nat.pow 2 970

/-- Whether `significand * 10 ^ exponent` is past the finite doubles. -/
def pastDouble (significand : Nat) (exponent : Int) : Bool :=
  let size := (toString significand).length
  if significand = 0 ∨ size + exponent < 300 then false
  else if 400 < size + exponent then true
  else if 0 ≤ exponent then doubleBound ≤ significand * Nat.pow 10 exponent.toNat
  else doubleBound * Nat.pow 10 (-exponent).toNat ≤ significand

end NetAudio.Decimal
