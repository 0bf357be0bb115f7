import NetAudio.Error

/-!
# Channel maps

A stream's channels take a run of consecutive channels in one bank of an audio device.  A map is
such a run, given by its first channel and its length; by its type it is never empty and never
reaches past the bank.
-/

set_option autoImplicit false

namespace NetAudio

/-- Channels in one bank of an audio device. -/
def bankSize : Nat := 64

structure ChannelMap where
  start : Nat
  count : Nat
  count_pos : 0 < count
  fits : start + count ≤ bankSize
  deriving DecidableEq

namespace ChannelMap

/-- The channels of the run, in order. -/
def indices (map : ChannelMap) : List UInt8 :=
  (List.range' map.start map.count).map UInt8.ofNat

def checkCount (count : Nat) : Except CalculatorError Unit :=
  if count = 0 ∨ bankSize < count then .error (.invalidChannelCount count) else .ok ()

/-- The run of `count` channels from `start`. -/
def contiguous (count start : Nat) : Except CalculatorError ChannelMap :=
  if counted : 0 < count ∧ count ≤ bankSize then
    if fits : start ≤ bankSize - count then
      .ok { start, count, count_pos := counted.1, fits := by omega }
    else
      .error (.mapOverflow start count bankSize)
  else
    .error (.invalidChannelCount count)

/-- Takes a list of channels as it stands, if it is a run. -/
def ofIndices (channels : List UInt8) : Except CalculatorError ChannelMap :=
  match channels with
  | [] => .error (.invalidChannelCount 0)
  | first :: _ => do
    let map ← contiguous channels.length first.toNat
    if map.indices = channels then return map else throw (.nonContiguousMap channels)

/-- The run of the same length as the list, from its first channel or from the last start that fits. -/
def anchored (channels : List UInt8) : Except CalculatorError ChannelMap := do
  checkCount channels.length
  let first := (channels.head?.map UInt8.toNat).getD 0
  contiguous channels.length (min first (bankSize - channels.length))

/-- The pair of channels a new stream starts with: twice its id, and the channel after it, within
the bank. -/
def stereoPair (id : UInt8) : ChannelMap where
  start := id.toNat * 2 % bankSize
  count := 2
  count_pos := by decide
  fits := by simp only [bankSize]; omega

/-- The last start that a run of `count` channels may have; the first is always `0`. -/
def lastStart (count : Nat) : Except CalculatorError Nat := do
  checkCount count
  return bankSize - count

/-- Every start that a run of this length may have. -/
def startOffsets (map : ChannelMap) : List Nat :=
  List.range (bankSize - map.count + 1)

def withStart (map : ChannelMap) (start : Nat) : Except CalculatorError ChannelMap :=
  contiguous map.count start

/-- The run of another length.  The start stays if the longer run still fits, else it moves down to
the last start that does. -/
def resized (map : ChannelMap) (count : Nat) : Except CalculatorError ChannelMap := do
  contiguous count (min map.start (← lastStart count))

/-- Reads the list a record holds: a list that is no run, or leaves the bank, is anchored. -/
def ofRecord (channels : List UInt8) : Except CalculatorError ChannelMap :=
  match ofIndices channels with
  | .ok map => .ok map
  | .error (.nonContiguousMap _) | .error (.mapOverflow _ _ _) => anchored channels
  | .error cause => .error cause

/-! ## Maps as lists of channels -/

@[simp] theorem length_indices (map : ChannelMap) : map.indices.length = map.count := by
  simp [indices]

theorem contiguous_count_start (map : ChannelMap) :
    contiguous map.count map.start = .ok map := by
  have counted : 0 < map.count ∧ map.count ≤ bankSize := ⟨map.count_pos, by have := map.fits; omega⟩
  have room : map.start ≤ bankSize - map.count := by have := map.fits; omega
  simp [contiguous, counted, room]

/-- No channel of a bank is too large for a byte. -/
theorem toNat_indices (map : ChannelMap) :
    map.indices.map UInt8.toNat = List.range' map.start map.count := by
  have bytes : ∀ channel ∈ List.range' map.start map.count,
      (UInt8.toNat ∘ UInt8.ofNat) channel = id channel := by
    intro channel member
    have below := (List.mem_range'_1.mp member).2
    have bank := map.fits
    have small : bankSize < UInt8.size := by decide
    exact UInt8.toNat_ofNat_of_lt (by omega)
  rw [indices, List.map_map, List.map_congr_left bytes, List.map_id]

/-- The list of a map's channels is taken as it stands. -/
theorem ofIndices_indices (map : ChannelMap) : ofIndices map.indices = .ok map := by
  obtain ⟨rest, listed⟩ : ∃ rest, map.indices = UInt8.ofNat map.start :: rest := by
    obtain ⟨n, counted⟩ := Nat.exists_eq_succ_of_ne_zero (Nat.ne_of_gt map.count_pos)
    simp [indices, counted, List.range'_succ]
  have first : (UInt8.ofNat map.start).toNat = map.start := by
    have := map.fits
    have := map.count_pos
    simp only [bankSize] at *
    simp only [UInt8.toNat_ofNat']
    omega
  have size := map.length_indices
  simp only [ofIndices, listed] at size ⊢
  simp only [size, first, contiguous_count_start, listed, bind, Except.bind, if_true]
  rfl

theorem ofRecord_indices (map : ChannelMap) : ofRecord map.indices = .ok map := by
  rw [ofRecord, ofIndices_indices]

end ChannelMap

end NetAudio
