import NetAudio.Text.Parts

/-!
# Punycode

A label of ASCII characters that stands for one with others: what stands before the last hyphen is
kept, and what follows says where each of the others goes, in ascending order of code points.  A
number is written with the lowest digit first, in base 36 with a threshold for each digit.
-/

set_option autoImplicit false

namespace NetAudio.Url.Punycode

def digitValue? (c : Char) : Option Nat :=
  if 'a' ≤ c ∧ c ≤ 'z' then some (c.toNat - 'a'.toNat)
  else if '0' ≤ c ∧ c ≤ '9' then some (c.toNat - '0'.toNat + 26)
  else none

/-- A digit below the threshold is the last of its number. -/
def threshold (place bias : Nat) : Nat :=
  max 1 (min 26 (36 * place - bias))

/-- The digits that scale `delta` down to 455 at most, and what remains. -/
def scale (delta : Nat) : Nat × Nat :=
  if 455 < delta then
    let (digits, rest) := scale (delta / 35)
    (digits + 1, rest)
  else (0, delta)
termination_by delta
decreasing_by omega

/-- The bias after a number of value `delta`, with `count` characters placed. -/
def adapt (delta count : Nat) (isFirst : Bool) : Nat :=
  let damped := if isFirst then delta / 700 else delta / 2
  let (digits, rest) := scale (damped + damped / count)
  36 * digits + 36 * rest / (rest + 38)

/-- Reads a number from its digits, the first of which counts `weight`. -/
def number? (bias : Nat) : (place weight : Nat) → List Char → Option (Nat × List Char)
  | _, _, [] => none
  | place, weight, c :: rest => do
    let digit ← digitValue? c
    let limit := threshold place bias
    if digit < limit then some (digit * weight, rest)
    else
      let (value, rest) ← number? bias (place + 1) (weight * (36 - limit)) rest
      some (digit * weight + value, rest)

theorem number?_length {bias place weight value : Nat} {chars rest : List Char}
    (h : number? bias place weight chars = some (value, rest)) : rest.length < chars.length := by
  induction chars generalizing place weight value rest with
  | nil => simp [number?] at h
  | cons c tail ih =>
    simp only [number?, Option.bind_eq_bind, Option.bind_eq_some_iff] at h
    obtain ⟨digit, _, h⟩ := h
    split at h
    · simp only [Option.some.injEq, Prod.mk.injEq] at h
      simp [h.2]
    · obtain ⟨⟨next, left⟩, hnext, h⟩ := Option.bind_eq_some_iff.1 h
      simp only [Option.some.injEq, Prod.mk.injEq] at h
      have := ih hnext
      simp only [← h.2, List.length_cons]
      omega

/-- Places the characters that `chars` describes, from code point `code` and position `position` on. -/
def place? (code position bias : Nat) (placed chars : List Char) : Option (List Char) :=
  if chars.isEmpty then some placed
  else match h : number? bias 1 1 chars with
    | none => none
    | some (delta, rest) =>
      let count := placed.length + 1
      let code' := code + (position + delta) / count
      let position' := (position + delta) % count
      if UInt32.size ≤ position + delta then none
      else if code'.isValidChar then
        place? code' (position' + 1) (adapt delta count (position = 0))
          (placed.insertIdx position' (Char.ofNat code')) rest
      else none
termination_by chars.length
decreasing_by exact number?_length h

/-- The characters that a label of small letters, digits and hyphens stands for. -/
def decode? (label : List Char) : Option (List Char) :=
  match Text.cutLast? '-' label with
  | some ([], _) => none
  | some (kept, chars) => place? 0x80 0 72 kept chars
  | none => place? 0x80 0 72 [] label

end NetAudio.Url.Punycode
