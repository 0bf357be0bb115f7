import NetAudio.Proofs.ChannelMap.Lists
import NetAudio.Proofs.Packet.Limits
import NetAudio.Wire.Words

/-!
# Channel maps computed on words

Counts and starts arrive as 64-bit words, and a map is kept as bytes.  Here each operation on maps is
carried out on words and bytes, with a failure of its own wherever a result is no word or a number is
cut off to a byte.  Every operation gives the bytes of the map that the operation on natural numbers
gives, or the same cause; so neither of the two failures ever arises.
-/

set_option autoImplicit false

namespace NetAudio

inductive WordFailure where
  /-- A sum, difference or product does not fit its word. -/
  | overflow
  /-- A number is cut off to fit a byte. -/
  | truncation
  | refused (cause : CalculatorError)
  | unreadable (fault : Json.Fault)
  deriving DecidableEq

/-! ## Checked arithmetic -/

namespace Word

def add (a b : UInt64) : Except WordFailure UInt64 :=
  if a.toNat + b.toNat < UInt64.size then .ok (a + b) else .error .overflow

def sub (a b : UInt64) : Except WordFailure UInt64 :=
  if b.toNat ≤ a.toNat then .ok (a - b) else .error .overflow

def mul (a b : UInt64) : Except WordFailure UInt64 :=
  if a.toNat * b.toNat < UInt64.size then .ok (a * b) else .error .overflow

def addByte (a b : UInt8) : Except WordFailure UInt8 :=
  if a.toNat + b.toNat < UInt8.size then .ok (a + b) else .error .overflow

def toByte (a : UInt64) : Except WordFailure UInt8 :=
  if a.toNat < UInt8.size then .ok a.toUInt8 else .error .truncation

def length (bytes : List UInt8) : Except WordFailure UInt64 :=
  if bytes.length < UInt64.size then .ok (.ofNat bytes.length) else .error .overflow

theorem add_of_lt {a b : UInt64} (fits : a.toNat + b.toNat < UInt64.size) :
    ∃ sum, add a b = .ok sum ∧ sum.toNat = a.toNat + b.toNat := by
  refine ⟨a + b, if_pos fits, ?_⟩
  rw [UInt64.toNat_add]
  exact Nat.mod_eq_of_lt fits

theorem sub_of_le {a b : UInt64} (fits : b.toNat ≤ a.toNat) :
    ∃ rest, sub a b = .ok rest ∧ rest.toNat = a.toNat - b.toNat :=
  ⟨a - b, if_pos fits, UInt64.toNat_sub_of_le a b (UInt64.le_iff_toNat_le.mpr fits)⟩

theorem mul_of_lt {a b : UInt64} (fits : a.toNat * b.toNat < UInt64.size) :
    ∃ product, mul a b = .ok product ∧ product.toNat = a.toNat * b.toNat := by
  refine ⟨a * b, if_pos fits, ?_⟩
  rw [UInt64.toNat_mul]
  exact Nat.mod_eq_of_lt fits

theorem addByte_of_lt {a b : UInt8} (fits : a.toNat + b.toNat < UInt8.size) :
    addByte a b = .ok (.ofNat (a.toNat + b.toNat)) := by
  rw [addByte, if_pos fits, UInt8.ofNat_add, UInt8.ofNat_toNat, UInt8.ofNat_toNat]

theorem toByte_of_lt {a : UInt64} (fits : a.toNat < UInt8.size) :
    toByte a = .ok (.ofNat a.toNat) := by
  have cut : a.toUInt8 = .ofNat a.toNat := UInt8.toNat_inj.mp (by simp)
  rw [toByte, if_pos fits, cut]

theorem length_of_lt {bytes : List UInt8} (held : bytes.length < UInt64.size) :
    ∃ count, length bytes = .ok count ∧ count.toNat = bytes.length :=
  ⟨_, if_pos held, UInt64.toNat_ofNat_of_lt held⟩

end Word

/-! ## The operations -/

namespace ByteMap

def bank : UInt64 := .ofNat bankSize

def checkCount (count : UInt64) : Except WordFailure Unit :=
  if count = 0 ∨ bank < count then .error (.refused (.invalidChannelCount count.toNat)) else .ok ()

/-- Counts channels up from `next`, one word after the other, and cuts each to a byte. -/
def countUp (next : UInt64) : Nat → Except WordFailure (List UInt8)
  | 0 => .ok []
  | count + 1 => do
    let channel ← Word.toByte next
    let after ← Word.add next 1
    let rest ← countUp after count
    return channel :: rest

def contiguous (count start : UInt64) : Except WordFailure (List UInt8) := do
  checkCount count
  let last ← Word.sub bank count
  if last < start then
    .error (.refused (.mapOverflow start.toNat count.toNat bankSize))
  else do
    let stop ← Word.add start count
    let length ← Word.sub stop start
    countUp start length.toNat

def ofIndices : List UInt8 → Except WordFailure (List UInt8)
  | [] => .error (.refused (.invalidChannelCount 0))
  | first :: rest => do
    let count ← Word.length (first :: rest)
    let run ← contiguous count first.toUInt64
    if run = first :: rest then .ok run
    else .error (.refused (.nonContiguousMap (first :: rest)))

def anchored (bytes : List UInt8) : Except WordFailure (List UInt8) := do
  let count ← Word.length bytes
  checkCount count
  let last ← Word.sub bank count
  contiguous count (min (bytes.headD 0).toUInt64 last)

/-- The pair is put together without a look at its count and start. -/
def stereoPair (id : UInt8) : Except WordFailure (List UInt8) := do
  let doubled ← Word.mul id.toUInt64 2
  let first ← Word.toByte (doubled % bank)
  let second ← Word.addByte first 1
  return [first, second]

def withStart (bytes : List UInt8) (start : UInt64) : Except WordFailure (List UInt8) := do
  let count ← Word.length bytes
  contiguous count start

def resized (bytes : List UInt8) (count : UInt64) : Except WordFailure (List UInt8) := do
  checkCount count
  let last ← Word.sub bank count
  contiguous count (min (bytes.headD 0).toUInt64 last)

def ofRecord (bytes : List UInt8) : Except WordFailure (List UInt8) :=
  match ofIndices bytes with
  | .error (.refused (.nonContiguousMap _)) | .error (.refused (.mapOverflow _ _ _)) =>
      anchored bytes
  | result => result

/-- Reads a list of bytes and takes it as it stands; a list that is refused is of another shape. -/
def decoded (doc : Json) : Except WordFailure (List UInt8) :=
  match (Json.ofJson doc : Except Json.Fault (List UInt8)) with
  | .error fault => .error (.unreadable fault)
  | .ok bytes =>
      match ofIndices bytes with
      | .error (.refused _) => .error (.unreadable .shape)
      | result => result

/-! ## Agreement with the maps -/

def told (result : Except CalculatorError ChannelMap) : Except WordFailure (List UInt8) :=
  (result.mapError .refused).map ChannelMap.indices

@[simp] theorem told_ok (map : ChannelMap) : told (.ok map) = .ok map.indices := rfl

theorem checkCount_of_countable {count : UInt64} (counted : ChannelMap.Countable count.toNat) :
    checkCount count = .ok () := by
  obtain ⟨positive, small⟩ := counted
  rw [checkCount, if_neg]
  rintro (none | beyond)
  · rw [none] at positive
    exact absurd positive (by decide)
  · exact absurd (UInt64.lt_iff_toNat_lt.mp beyond) (Nat.not_lt.mpr small)

theorem checkCount_of_uncountable {count : UInt64} (beyond : ¬ ChannelMap.Countable count.toNat) :
    checkCount count = .error (.refused (.invalidChannelCount count.toNat)) := by
  rw [checkCount, if_pos]
  by_cases positive : 0 < count.toNat
  · have large : bankSize < count.toNat := Nat.not_le.mp fun small => beyond ⟨positive, small⟩
    exact .inr (UInt64.lt_iff_toNat_lt.mpr large)
  · exact .inl (UInt64.toNat_inj.mp (Nat.eq_zero_of_not_pos positive))

theorem countUp_of_fits (count : Nat) (next : UInt64) (fits : next.toNat + count ≤ bankSize) :
    countUp next count = .ok ((List.range' next.toNat count).map UInt8.ofNat) := by
  have bank : bankSize = 64 := rfl
  induction count generalizing next with
  | zero => rfl
  | succ count ih =>
      -- `next` is a channel of the bank, so it is a byte and the word after it is no sum that wraps.
      have byte : next.toNat < UInt8.size := by
        simp only [UInt8.size]
        omega
      have one : (1 : UInt64).toNat = 1 := rfl
      obtain ⟨after, added, value⟩ := @Word.add_of_lt next 1 (by
        simp only [UInt64.size]
        omega)
      rw [one] at value
      have rest := ih after (by omega)
      simp only [countUp, Word.toByte_of_lt byte, added, rest, value, List.range'_succ, List.map_cons,
        bind, Except.bind, pure, Except.pure]

theorem contiguous_eq (count start : UInt64) :
    contiguous count start = told (ChannelMap.contiguous count.toNat start.toNat) := by
  by_cases counted : ChannelMap.Countable count.toNat
  · obtain ⟨last, subtracted, room⟩ := @Word.sub_of_le bank count counted.2
    have bankValue : bank.toNat = bankSize := rfl
    rw [bankValue] at room
    simp only [contiguous, checkCount_of_countable counted, subtracted, bind, Except.bind]
    by_cases fits : start.toNat ≤ bankSize - count.toNat
    · have small : ¬ last < start := by
        rw [UInt64.lt_iff_toNat_lt, room]
        omega
      have bound := counted.2
      have size : bankSize < UInt64.size := by decide
      obtain ⟨stop, added, sum⟩ := @Word.add_of_lt start count (by omega)
      obtain ⟨length, measured, difference⟩ := @Word.sub_of_le stop start (by omega)
      have length_eq : length.toNat = count.toNat := by omega
      obtain ⟨map, taken, mapCount, mapStart⟩ :=
        ChannelMap.contiguous_of_fits count.toNat start.toNat counted fits
      rw [if_neg small, added, taken]
      simp only [measured, length_eq]
      rw [countUp_of_fits count.toNat start (by omega), ← mapCount, ← mapStart]
      rfl
    · have beyond : last < start := by
        rw [UInt64.lt_iff_toNat_lt, room]
        omega
      rw [if_pos beyond, ChannelMap.contiguous_of_overflow _ _ counted fits]
      rfl
  · rw [ChannelMap.contiguous_of_uncountable _ _ counted, contiguous,
      checkCount_of_uncountable counted]
    rfl

/-- The list can be held: its length is a word. -/
def Held (bytes : List UInt8) : Prop := bytes.length < UInt64.size

theorem held_indices (map : ChannelMap) : Held map.indices := by
  have bank := map.fits
  have size : bankSize < UInt64.size := by decide
  rw [Held, map.length_indices]
  omega

theorem toNat_toUInt64 (byte : UInt8) : byte.toUInt64.toNat = byte.toNat :=
  UInt8.toNat_toUInt64 byte

theorem ofIndices_eq (bytes : List UInt8) (held : Held bytes) :
    ofIndices bytes = told (ChannelMap.ofIndices bytes) := by
  cases bytes with
  | nil => rfl
  | cons first rest =>
      obtain ⟨count, measured, value⟩ := Word.length_of_lt held
      simp only [ofIndices, ChannelMap.ofIndices, measured, contiguous_eq, toNat_toUInt64, value,
        bind, Except.bind]
      cases ChannelMap.contiguous (first :: rest).length first.toNat with
      | error cause => rfl
      | ok map =>
          simp only [told_ok]
          split
          · rfl
          · rfl

theorem toNat_min_last {byte : UInt8} {last : UInt64} {room : Nat} (value : last.toNat = room) :
    (min byte.toUInt64 last).toNat = min byte.toNat room := by
  rw [toNat_min, toNat_toUInt64, value]

theorem anchored_eq (bytes : List UInt8) (held : Held bytes) :
    anchored bytes = told (ChannelMap.anchored bytes) := by
  obtain ⟨count, measured, value⟩ := Word.length_of_lt held
  by_cases counted : ChannelMap.Countable bytes.length
  · rw [← value] at counted
    obtain ⟨last, subtracted, room⟩ := @Word.sub_of_le bank count counted.2
    simp only [anchored, measured, checkCount_of_countable counted, subtracted, contiguous_eq,
      toNat_min_last room, bind, Except.bind]
    rw [value] at counted ⊢
    rw [ChannelMap.anchored_eq bytes counted]
    rfl
  · rw [ChannelMap.anchored_of_uncountable bytes counted, ← value]
    rw [← value] at counted
    simp only [anchored, measured, checkCount_of_uncountable counted, bind, Except.bind]
    rfl

theorem stereoPair_eq (id : UInt8) : stereoPair id = .ok (ChannelMap.stereoPair id).indices := by
  have small := id.toNat_lt
  have two : (2 : UInt64).toNat = 2 := rfl
  have bankValue : bank.toNat = 64 := rfl
  have one : (1 : UInt8).toNat = 1 := rfl
  obtain ⟨doubled, multiplied, value⟩ := @Word.mul_of_lt id.toUInt64 2 (by
    rw [toNat_toUInt64, two, UInt64.size]
    omega)
  rw [toNat_toUInt64, two] at value
  have wrapped : (doubled % bank).toNat = id.toNat * 2 % 64 := by
    rw [UInt64.toNat_mod, bankValue, value]
  have byte : (doubled % bank).toNat < UInt8.size := by
    rw [wrapped, UInt8.size]
    omega
  have first : (UInt8.ofNat (id.toNat * 2 % 64)).toNat = id.toNat * 2 % 64 :=
    UInt8.toNat_ofNat_of_lt (by rw [UInt8.size]; omega)
  have second := @Word.addByte_of_lt (.ofNat (id.toNat * 2 % 64)) 1 (by
    rw [first, one, UInt8.size]
    omega)
  rw [first, one] at second
  simp only [stereoPair, multiplied, Word.toByte_of_lt byte, wrapped, second, bind, Except.bind,
    pure, Except.pure]
  rfl

theorem withStart_eq (map : ChannelMap) (start : UInt64) :
    withStart map.indices start = told (map.withStart start.toNat) := by
  obtain ⟨count, measured, value⟩ := Word.length_of_lt (held_indices map)
  rw [map.length_indices] at value
  simp only [withStart, measured, contiguous_eq, value, bind, Except.bind]
  rfl

theorem resized_eq (map : ChannelMap) (count : UInt64) :
    resized map.indices count = told (map.resized count.toNat) := by
  by_cases counted : ChannelMap.Countable count.toNat
  · obtain ⟨last, subtracted, room⟩ := @Word.sub_of_le bank count counted.2
    simp only [resized, checkCount_of_countable counted, subtracted, contiguous_eq,
      toNat_min_last room, map.head_indices, ChannelMap.resized, ChannelMap.lastStart,
      ChannelMap.checkCount_of_countable counted, bind, Except.bind, pure, Except.pure]
    rfl
  · simp only [resized, checkCount_of_uncountable counted, ChannelMap.resized,
      ChannelMap.lastStart, ChannelMap.checkCount_of_uncountable counted, bind, Except.bind]
    rfl

theorem ofRecord_eq (bytes : List UInt8) (held : Held bytes) :
    ofRecord bytes = told (ChannelMap.ofRecord bytes) := by
  rw [ofRecord, ofIndices_eq bytes held]
  cases taken : ChannelMap.ofIndices bytes with
  | ok map =>
      rw [ChannelMap.ofRecord, taken]
      rfl
  | error cause =>
      rw [ChannelMap.ofRecord, taken]
      cases (ChannelMap.refused_iff bytes cause).mp taken with
      | count outside => rfl
      | overflow given short beyond => exact anchored_eq bytes held
      | gap given fits broken => exact anchored_eq bytes held

theorem decoded_eq (doc : Json)
    (held : ∀ bytes : List UInt8, Json.ofJson doc = .ok bytes → Held bytes) :
    decoded doc = ((Json.ofJson doc : Except Json.Fault ChannelMap).mapError .unreadable).map
      ChannelMap.indices := by
  have reading : (Json.ofJson doc : Except Json.Fault ChannelMap) =
      readChecked ChannelMap.ofIndices doc := rfl
  rw [reading, decoded, readChecked]
  cases listed : (Json.ofJson doc : Except Json.Fault (List UInt8)) with
  | error fault => rfl
  | ok bytes =>
      simp only [ofIndices_eq bytes (held bytes listed), bind, Except.bind]
      cases ChannelMap.ofIndices bytes with
      | ok map => rfl
      | error cause => rfl

end ByteMap

end NetAudio
