import Mathlib.Order.Bounds.Basic
import NetAudio.Proofs.ChannelMap.Words
import NetAudio.Proofs.Packet.Limits

/-!
# The channel limit as an optimum

The channel limit of an encoding, a packet size and a budget is the greatest number of channels in one
bank whose samples fit the budget.  What fits also fits where less room is asked for or more is given,
so the limit falls with the samples of a packet and with the bytes of a sample, and rises with the
budget.  Computing it on words neither wraps nor divides by zero.
-/

set_option autoImplicit false

namespace NetAudio

/-- A packet with a block of samples of each of `count` channels of a bank fits the budget. -/
def FitsPacket (codec : Codec) (samples : UInt32) (budget : UInt64) (count : Nat) : Prop :=
  count ≤ 64 ∧ count * samples.toNat * codec.bytesPerSample.toNat ≤ budget.toNat

/-! ## The limit on words -/

inductive LimitFailure where
  | word (failure : WordFailure)
  | divisionByZero
  deriving DecidableEq

namespace Word

def divide (a b : UInt64) : Except LimitFailure UInt64 :=
  if b = 0 then .error .divisionByZero else .ok (a / b)

/-- The channel limit by checked operations. -/
def maxChannelsWithin (codec : Codec) (samples : UInt32) (budget : UInt64) :
    Except LimitFailure UInt64 :=
  if samples = 0 then
    .error (.word (.refused (.invalidArgument "max_samples_per_packet must be positive")))
  else do
    let bytes ← (mul samples.toUInt64 codec.bytesPerSample).mapError .word
    let channels ← divide budget bytes
    return min channels (.ofNat bankSize)

end Word

section Limits
variable {codec : Codec} {samples : UInt32} {budget limit : UInt64}

theorem frameBytes_lt (codec : Codec) (samples : UInt32) :
    samples.toUInt64.toNat * codec.bytesPerSample.toNat < UInt64.size := by
  have word : samples.toNat < UInt32.size := samples.toNat_lt
  have few : codec.bytesPerSample.toNat ≤ 3 := by cases codec <;> decide
  have product := Nat.mul_le_mul (Nat.le_of_lt word) few
  have room : UInt32.size * 3 < UInt64.size := by decide
  rw [UInt32.toNat_toUInt64]
  omega

theorem frameBytes_ne_zero (codec : Codec) (filled : samples ≠ 0) :
    samples.toUInt64 * codec.bytesPerSample ≠ 0 := by
  have positive := frameBytes_pos codec samples filled
  intro none
  rw [← toNat_frameBytes, none] at positive
  exact Nat.lt_irrefl 0 positive

/-- Neither failure of the words arises. -/
theorem Word.maxChannelsWithin_eq (codec : Codec) (samples : UInt32) (budget : UInt64) :
    Word.maxChannelsWithin codec samples budget =
      (NetAudio.maxChannelsWithin codec samples budget).mapError fun cause =>
        .word (.refused cause) := by
  by_cases empty : samples = 0
  · rw [Word.maxChannelsWithin, if_pos empty, NetAudio.maxChannelsWithin, if_pos empty]
    rfl
  · have fits := frameBytes_lt codec samples
    have filled := frameBytes_ne_zero codec empty
    rw [Word.maxChannelsWithin, if_neg empty, NetAudio.maxChannelsWithin, if_neg empty, mul,
      if_pos fits]
    simp only [Except.mapError, bind, Except.bind, divide, if_neg filled]
    rfl

/-! ## The limit in exact integers -/

theorem maxChannelsWithin_eq_error_iff (cause : CalculatorError) :
    maxChannelsWithin codec samples budget = .error cause ↔
      samples = 0 ∧ cause = .invalidArgument "max_samples_per_packet must be positive" := by
  rw [maxChannelsWithin]
  by_cases empty : samples = 0
  · simp [empty, eq_comm]
  · simp [empty]

theorem isGreatest_limit (filled : samples ≠ 0) :
    ∃ limit, maxChannelsWithin codec samples budget = .ok limit ∧
      IsGreatest { count | FitsPacket codec samples budget count } limit.toNat := by
  obtain ⟨limit, limited, exact⟩ := maxChannelsWithin_exact codec samples budget filled
  have fits_iff (count : Nat) : FitsPacket codec samples budget count ↔ count ≤ limit.toNat := by
    rw [exact count, FitsPacket, Nat.mul_assoc]
    rfl
  refine ⟨limit, limited, (fits_iff _).mpr (Nat.le_refl _), ?_⟩
  intro count fits
  exact (fits_iff count).mp fits

theorem isGreatest_of_ok (limited : maxChannelsWithin codec samples budget = .ok limit) :
    IsGreatest { count | FitsPacket codec samples budget count } limit.toNat := by
  have filled : samples ≠ 0 := by
    intro empty
    have refused := (@maxChannelsWithin_eq_error_iff codec samples budget _).mpr ⟨empty, rfl⟩
    rw [limited] at refused
    cases refused
  obtain ⟨other, found, greatest⟩ := @isGreatest_limit codec samples budget filled
  rw [limited] at found
  cases found
  exact greatest

theorem FitsPacket.of_le {other : Codec} {more : UInt32} {less : UInt64} {count : Nat}
    (fits : FitsPacket other more less count)
    (bytes : codec.bytesPerSample ≤ other.bytesPerSample) (longer : samples ≤ more)
    (tighter : less ≤ budget) : FitsPacket codec samples budget count := by
  obtain ⟨bank, held⟩ := fits
  refine ⟨bank, ?_⟩
  calc
    count * samples.toNat * codec.bytesPerSample.toNat
        ≤ count * more.toNat * other.bytesPerSample.toNat :=
      Nat.mul_le_mul (Nat.mul_le_mul_left count (UInt32.le_iff_toNat_le.mp longer))
        (UInt64.le_iff_toNat_le.mp bytes)
    _ ≤ less.toNat := held
    _ ≤ budget.toNat := UInt64.le_iff_toNat_le.mp tighter

/-- Only empty packets have no channel limit.  The limit of all others is the greatest number of channels
that fit, it is computed without loss, and it does not rise where samples are more, or of more bytes, or
the budget is less. -/
theorem channel_limit_is_greatest (codec : Codec) (samples : UInt32) (budget : UInt64) :
    (∀ cause, maxChannelsWithin codec samples budget = .error cause ↔
      samples = 0 ∧ cause = .invalidArgument "max_samples_per_packet must be positive") ∧
    (samples ≠ 0 → ∃ limit, maxChannelsWithin codec samples budget = .ok limit ∧
      IsGreatest { count | FitsPacket codec samples budget count } limit.toNat) ∧
    Word.maxChannelsWithin codec samples budget =
      (maxChannelsWithin codec samples budget).mapError (fun cause => .word (.refused cause)) ∧
    ∀ limit, maxChannelsWithin codec samples budget = .ok limit →
      ∀ (other : Codec) (more : UInt32) (less lower : UInt64),
        codec.bytesPerSample ≤ other.bytesPerSample → samples ≤ more → less ≤ budget →
        maxChannelsWithin other more less = .ok lower → lower ≤ limit := by
  refine ⟨maxChannelsWithin_eq_error_iff, isGreatest_limit,
    Word.maxChannelsWithin_eq codec samples budget, ?_⟩
  intro limit limited other more less lower bytes longer tighter lowered
  -- What fits the tighter packet fits the other one, where `limit` is the greatest that does.
  have fits := (isGreatest_of_ok lowered).1.of_le bytes longer tighter
  exact UInt64.le_iff_toNat_le.mpr ((isGreatest_of_ok limited).2 fits)

/-- A packet so long that its bytes per channel are no 32-bit word. -/
theorem limit_of_long_packet :
    maxChannelsWithin .l16 2147483648 137438953471 = .ok 31 ∧
      (∃ limit, maxChannelsWithin .l16 2147483648 137438953471 = .ok limit ∧
        IsGreatest { count | FitsPacket .l16 2147483648 137438953471 count } limit.toNat) ∧
      maxChannelsWithin .am824 2147483649 137438953470 = .ok 21 ∧ (21 : UInt64) ≤ 31 := by
  obtain ⟨-, greatest, -, falls⟩ := channel_limit_is_greatest .l16 2147483648 137438953471
  exact ⟨rfl, greatest (by decide), rfl,
    falls 31 rfl .am824 2147483649 137438953470 21 (by decide) (by decide) (by decide) rfl⟩

end Limits

end NetAudio
