import NetAudio.Text.Bytes
import NetAudio.Text.Decimal
import NetAudio.Toml.Basic

/-!
# TOML words

The values that are written without quotes or brackets: booleans, integers, floats, and moments in
time.  Single underscores may stand between digits.
-/

set_option autoImplicit false

namespace NetAudio.Toml

/-! ## Integers -/

/-- Whether the characters are digits with single underscores between them. -/
def isGrouped (isDigit : Char → Bool) : List Char → Bool
  | [] => false
  | [c] => isDigit c
  | c :: '_' :: rest => isDigit c && isGrouped isDigit rest
  | c :: rest => isDigit c && isGrouped isDigit rest

/-- Whether the characters are decimal digits without a leading zero. -/
def isWhole (chars : List Char) : Bool :=
  chars = ['0'] || (isGrouped Char.isDigit chars && chars.head? != some '0')

/-- The value of a run of digits in a base. -/
def valueIn (base : Nat) (chars : List Char) : Nat :=
  (chars.filter (· ≠ '_')).foldl (fun acc c => acc * base + (Percent.hexValue? c).getD 0) 0

def isDigitIn (base : Nat) (c : Char) : Bool := (Percent.hexValue? c).any (· < base)

/-- Whether the sign is a minus, and what stands after it. -/
def cutSign : List Char → Bool × List Char
  | '-' :: rest => (true, rest)
  | '+' :: rest => (false, rest)
  | chars => (false, chars)

def integerOf? (word : List Char) : Option Int :=
  let inBase (base : Nat) (digits : List Char) : Option Int :=
    if isGrouped (isDigitIn base) digits then some (valueIn base digits) else none
  let value := match word with
    | '0' :: 'x' :: digits => inBase 16 digits
    | '0' :: 'o' :: digits => inBase 8 digits
    | '0' :: 'b' :: digits => inBase 2 digits
    | _ =>
      let (negative, digits) := cutSign word
      if isWhole digits then
        some (if negative then -(valueIn 10 digits : Int) else valueIn 10 digits)
      else none
  value.filter holdsInteger

/-! ## Floats -/

/-- Whether the word is a float.  A positive one must have a finite double near it. -/
def isFloat (word : List Char) : Bool :=
  let (negative, unsigned) := cutSign word
  if unsigned = "inf".toList ∨ unsigned = "nan".toList then true
  else
    let isMark (c : Char) : Bool := c = 'e' || c = 'E'
    let mantissa := unsigned.takeWhile (!isMark ·)
    let exponent := (unsigned.dropWhile (!isMark ·)).drop 1
    let whole := mantissa.takeWhile (· ≠ '.')
    let fraction := (mantissa.dropWhile (· ≠ '.')).drop 1
    let hasExponent := unsigned.any isMark
    let hasFraction := mantissa.contains '.'
    let (negativeExponent, exponentDigits) := cutSign exponent
    let size : Int := valueIn 10 exponentDigits
    let significand := valueIn 10 (whole ++ fraction)
    let power := (if negativeExponent then -size else size) -
      ((fraction.filter (· ≠ '_')).length : Int)
    isWhole whole && (hasExponent || hasFraction) &&
      (!hasFraction || isGrouped Char.isDigit fraction) &&
      (!hasExponent || isGrouped Char.isDigit exponentDigits) &&
      (negative || !Decimal.pastDouble significand power)

/-! ## Moments -/

def twoDigits? (a b : Char) : Option Nat :=
  if a.isDigit ∧ b.isDigit then some (Decimal.valueOf [a, b]) else none

def isBetween (low high : Nat) (a b : Char) : Bool :=
  (twoDigits? a b).any fun n => low ≤ n && n ≤ high

def isLeapYear (year : Nat) : Bool := year % 4 = 0 && (year % 100 ≠ 0 || year % 400 = 0)

def daysOf (year month : Nat) : Nat :=
  if month = 2 then (if isLeapYear year then 29 else 28)
  else if [4, 6, 9, 11].contains month then 30
  else 31

def isDate : List Char → Bool
  | [y₁, y₂, y₃, y₄, '-', m₁, m₂, '-', d₁, d₂] =>
    let year := [y₁, y₂, y₃, y₄]
    year.all Char.isDigit && isBetween 1 12 m₁ m₂ &&
      isBetween 1 (daysOf (Decimal.valueOf year) (Decimal.valueOf [m₁, m₂])) d₁ d₂
  | _ => false

/-- What stands after a time of day, with an optional fraction of the second. -/
def afterTime? : List Char → Option (List Char)
  | h₁ :: h₂ :: ':' :: m₁ :: m₂ :: ':' :: s₁ :: s₂ :: rest =>
    if isBetween 0 23 h₁ h₂ && isBetween 0 59 m₁ m₂ && isBetween 0 60 s₁ s₂ then
      match rest with
      | '.' :: digits =>
        if digits.head?.any Char.isDigit then some (digits.dropWhile Char.isDigit) else none
      | _ => some rest
    else none
  | _ => none

/-- Whether the characters are a difference to universal time, or nothing. -/
def isOffset : List Char → Bool
  | [] => true
  | [c] => c = 'Z' || c = 'z'
  | [sign, h₁, h₂, ':', m₁, m₂] =>
    (sign = '+' || sign = '-') && isBetween 0 23 h₁ h₂ && isBetween 0 59 m₁ m₂
  | _ => false

/-- Whether the characters are a date, a time of day, or a date and a time with an optional
offset. -/
def isMoment (chars : List Char) : Bool :=
  isDate chars || afterTime? chars = some [] ||
    (isDate (chars.take 10) &&
      match chars.drop 10 with
      | mark :: time =>
        (mark = 'T' || mark = 't' || mark = ' ') && (afterTime? time).any isOffset
      | [] => false)

/-! ## Any word -/

def isWordChar (c : Char) : Bool :=
  c.isAlphanum || c = '_' || c = '-' || c = '+' || c = '.' || c = ':'

def ofWord? (word : List Char) : Option Scalar :=
  if word = "true".toList then some (.boolean true)
  else if word = "false".toList then some (.boolean false)
  else match integerOf? word with
    | some value => some (.integer value)
    | none =>
      if isFloat word then some (.float (String.ofList word))
      else if isMoment word then some (.moment (String.ofList word))
      else none

/-- The word at the start of a text, and the text after it.  After a date a space may stand between
it and a time. -/
def cutWord (chars : List Char) : List Char × List Char :=
  let word := chars.takeWhile isWordChar
  let rest := chars.dropWhile isWordChar
  match rest with
  | ' ' :: next :: after =>
    if isDate word && next.isDigit then
      (word ++ ' ' :: (next :: after).takeWhile isWordChar, (next :: after).dropWhile isWordChar)
    else (word, rest)
  | _ => (word, rest)

end NetAudio.Toml
