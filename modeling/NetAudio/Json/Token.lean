import NetAudio.Json.Basic
import NetAudio.Text.Decimal

/-!
# JSON tokens

The scanner is a machine that takes one character at a time: `step` gives the tokens that the
character finishes and the mode it leaves the machine in, `finish` the tokens that the end of the
text finishes.  Once a character fits nowhere, the machine puts out `bad` and stays silent.
-/

set_option autoImplicit false

namespace NetAudio.Json

inductive Token where
  | openArray
  | closeArray
  | openObject
  | closeObject
  | colon
  | comma
  /-- `null`, `true`, `false` or a number. -/
  | scalar (value : Json)
  /-- A string; `none` if it holds an unpaired surrogate. -/
  | string (value : Option String)
  | bad
  deriving Inhabited

/-! ## Numbers -/

/-- What of a number has been read. -/
inductive NumberStage where
  | minus
  | zero
  | whole
  | point
  | fraction
  | exponent
  | exponentSign
  | exponentDigits
  deriving DecidableEq, Repr

namespace NumberStage

/-- The stage after one more character, if the number goes on with it. -/
def next? (stage : NumberStage) (c : Char) : Option NumberStage :=
  match stage with
  | .minus => if c = '0' then some .zero else if c.isDigit then some .whole else none
  | .zero =>
    if c = '.' then some .point else if c = 'e' ∨ c = 'E' then some .exponent else none
  | .whole =>
    if c.isDigit then some .whole
    else if c = '.' then some .point
    else if c = 'e' ∨ c = 'E' then some .exponent
    else none
  | .point => if c.isDigit then some .fraction else none
  | .fraction =>
    if c.isDigit then some .fraction
    else if c = 'e' ∨ c = 'E' then some .exponent
    else none
  | .exponent =>
    if c.isDigit then some .exponentDigits
    else if c = '+' ∨ c = '-' then some .exponentSign
    else none
  | .exponentSign | .exponentDigits => if c.isDigit then some .exponentDigits else none

/-- Whether a number may end here before the character `c`.  No digit follows a leading zero. -/
def mayEnd (stage : NumberStage) (c : Option Char) : Bool :=
  match stage with
  | .zero => !(c.any Char.isDigit)
  | .whole | .fraction | .exponentDigits => true
  | _ => false

end NumberStage

def ofNumber (chars : List Char) : Json :=
  let negative := chars.head? = some '-'
  let unsigned := if negative then chars.drop 1 else chars
  let whole := unsigned.takeWhile Char.isDigit
  let afterWhole := unsigned.dropWhile Char.isDigit
  let fraction := if afterWhole.head? = some '.' then (afterWhole.drop 1).takeWhile Char.isDigit else []
  let exponentText := (afterWhole.dropWhile fun c => c ≠ 'e' ∧ c ≠ 'E').drop 1
  let exponentDigits := exponentText.filter Char.isDigit
  let exponentSize : Int := Decimal.valueOf exponentDigits
  let exponent := if exponentText.head? = some '-' then -exponentSize else exponentSize
  if Decimal.pastDouble (Decimal.valueOf (whole ++ fraction)) (exponent - fraction.length) then .void
  else if afterWhole.isEmpty ∧ ¬(negative ∧ Decimal.valueOf whole = 0) then
    .integer (if negative then -(Decimal.valueOf whole : Int) else Decimal.valueOf whole)
  else .decimal (String.ofList chars)

/-! ## Strings -/

/-- What of a string has been read: the characters so far, latest first, a high surrogate that
waits for its partner, and whether one waited in vain. -/
structure StringSoFar where
  chars : List Char
  high : Option Nat
  unpaired : Bool
  deriving Inhabited

namespace StringSoFar

def start : StringSoFar := { chars := [], high := none, unpaired := false }

/-- A character that is no surrogate; it leaves a waiting surrogate alone. -/
def push (s : StringSoFar) (c : Char) : StringSoFar :=
  { chars := c :: s.chars, high := none, unpaired := s.unpaired || s.high.isSome }

def pushUnit (s : StringSoFar) (unit : Nat) : StringSoFar :=
  if 0xD800 ≤ unit ∧ unit < 0xDC00 then
    { s with high := some unit, unpaired := s.unpaired || s.high.isSome }
  else if 0xDC00 ≤ unit ∧ unit < 0xE000 then
    match s.high with
    | some high =>
      { s with
        chars := Char.ofNat (0x10000 + (high - 0xD800) * 0x400 + (unit - 0xDC00)) :: s.chars
        high := none }
    | none => { s with unpaired := true }
  else s.push (Char.ofNat unit)

def finish (s : StringSoFar) : Option String :=
  if s.unpaired || s.high.isSome then none else some (String.ofList s.chars.reverse)

end StringSoFar

def shortEscape? : Char → Option Char
  | '"' => some '"'
  | '\\' => some '\\'
  | '/' => some '/'
  | 'b' => some '\x08'
  | 'f' => some '\x0c'
  | 'n' => some '\n'
  | 'r' => some '\r'
  | 't' => some '\t'
  | _ => none

/-- The value of a hexadecimal digit, in either case. -/
def hexDigit? (c : Char) : Option Nat :=
  if c.isDigit then some (c.toNat - '0'.toNat)
  else if 'a' ≤ c ∧ c ≤ 'f' then some (c.toNat - 'a'.toNat + 10)
  else if 'A' ≤ c ∧ c ≤ 'F' then some (c.toNat - 'A'.toNat + 10)
  else none

/-! ## The machine -/

inductive Mode where
  | between
  /-- Inside a word, with the letters that must still come. -/
  | word (next : Char) (rest : List Char) (value : Json)
  /-- Inside a number, with its characters so far, latest first. -/
  | number (stage : NumberStage) (chars : List Char)
  | string (s : StringSoFar)
  | escape (s : StringSoFar)
  /-- Inside `\u`, with the digits still to come and the value of those read. -/
  | hex (s : StringSoFar) (missing : Nat) (value : Nat)
  | broken
  deriving Inhabited

def isBlank (c : Char) : Bool := c = ' ' || c = '\n' || c = '\t' || c = '\r'

/-- The first character of a token, or a blank between tokens. -/
def Mode.enter (c : Char) : List Token × Mode :=
  if isBlank c then ([], .between)
  else if c.isDigit then ([], .number (if c = '0' then .zero else .whole) [c])
  else match c with
    | '[' => ([.openArray], .between)
    | ']' => ([.closeArray], .between)
    | '{' => ([.openObject], .between)
    | '}' => ([.closeObject], .between)
    | ':' => ([.colon], .between)
    | ',' => ([.comma], .between)
    | '"' => ([], .string .start)
    | '-' => ([], .number .minus ['-'])
    | 'n' => ([], .word 'u' ['l', 'l'] .null)
    | 't' => ([], .word 'r' ['u', 'e'] (.bool true))
    | 'f' => ([], .word 'a' ['l', 's', 'e'] (.bool false))
    | _ => ([.bad], .broken)

def Mode.step (mode : Mode) (c : Char) : List Token × Mode :=
  match mode with
  | .between => Mode.enter c
  | .word expected rest value =>
    if c = expected then
      match rest with
      | [] => ([.scalar value], .between)
      | next :: later => ([], .word next later value)
    else ([.bad], .broken)
  | .number stage chars =>
    match stage.next? c with
    | some next => ([], .number next (c :: chars))
    | none =>
      if stage.mayEnd (some c) then
        match Mode.enter c with
        | (tokens, next) => (.scalar (ofNumber chars.reverse) :: tokens, next)
      else ([.bad], .broken)
  | .string s =>
    if c = '"' then ([.string s.finish], .between)
    else if c = '\\' then ([], .escape s)
    else if c.toNat < 0x20 then ([.bad], .broken)
    else ([], .string (s.push c))
  | .escape s =>
    if c = 'u' then ([], .hex s 4 0)
    else match shortEscape? c with
      | some meant => ([], .string (s.push meant))
      | none => ([.bad], .broken)
  | .hex s missing value =>
    match hexDigit? c with
    | none => ([.bad], .broken)
    | some digit =>
      if missing ≤ 1 then ([], .string (s.pushUnit (value * 16 + digit)))
      else ([], .hex s (missing - 1) (value * 16 + digit))
  | .broken => ([], .broken)

def Mode.finish : Mode → List Token
  | .between | .broken => []
  | .number stage chars => if stage.mayEnd none then [.scalar (ofNumber chars.reverse)] else [.bad]
  | _ => [.bad]

def Mode.scan (mode : Mode) : List Char → List Token
  | [] => mode.finish
  | c :: rest => match mode.step c with
    | (tokens, next) => tokens ++ next.scan rest

def tokens (text : String) : List Token := Mode.between.scan text.toList

end NetAudio.Json
