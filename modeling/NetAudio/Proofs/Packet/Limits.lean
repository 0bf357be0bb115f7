import NetAudio.Packet

/-!
# Packet limits in exact integers

The ceiling of a clock and the channel limit of an encoding are computed with words of fixed width.
Here they are related to the products and quotients of natural numbers: the ceiling's product is
cut off only above every word, and the bytes of a frame never wrap.
-/

set_option autoImplicit false

namespace NetAudio

namespace Clock

/-- The ceiling is the exact product wherever a word can hold it. -/
theorem toNat_maxSamplesPerPacket (clock : Clock) :
    clock.maxSamplesPerPacket.toNat =
      min (clock.ticFrameSize.toNat * clock.frameMultiplier.toNat) (UInt32.size - 1) := by
  have held : min (clock.ticFrameSize.toNat * clock.frameMultiplier.toNat) (UInt32.size - 1) <
      UInt32.size := by
    have size : 0 < UInt32.size := by decide
    omega
  rw [maxSamplesPerPacket, saturatingMul]
  exact UInt32.toNat_ofNat_of_lt held

theorem le_ceiling_iff (clock : Clock) (samples : UInt32) :
    samples.toNat ≤ clock.maxSamplesPerPacket.toNat ↔
      samples.toNat ≤ clock.ticFrameSize.toNat * clock.frameMultiplier.toNat := by
  have word : samples.toNat < UInt32.size := samples.toNat_lt
  rw [clock.toNat_maxSamplesPerPacket]
  omega

end Clock

theorem toNat_frameBytes (codec : Codec) (samples : UInt32) :
    (samples.toUInt64 * codec.bytesPerSample).toNat =
      samples.toNat * codec.bytesPerSample.toNat := by
  have word := samples.toNat_lt
  cases codec <;> simp [Codec.bytesPerSample, UInt64.toNat_mul] <;> omega

theorem frameBytes_pos (codec : Codec) (samples : UInt32) (positive : samples ≠ 0) :
    0 < samples.toNat * codec.bytesPerSample.toNat := by
  have held : 0 < samples.toNat := by
    rw [Nat.pos_iff_ne_zero]
    intro none
    exact positive (UInt32.toNat_inj.mp none)
  have bytes : 0 < codec.bytesPerSample.toNat := by cases codec <;> decide
  exact Nat.mul_pos held bytes

theorem toNat_min (a b : UInt64) : (min a b).toNat = min a.toNat b.toNat := by
  rw [Std.min_eq_if, Nat.min_def]
  split <;> split <;> simp_all [UInt64.le_iff_toNat_le]

/-- Packets that hold samples have a channel limit: the exact quotient, within a bank. -/
theorem maxChannelsWithin_eq (codec : Codec) (samples : UInt32) (budget : UInt64)
    (positive : samples ≠ 0) :
    ∃ limit, maxChannelsWithin codec samples budget = .ok limit ∧
      limit.toNat = min bankSize (budget.toNat / (samples.toNat * codec.bytesPerSample.toNat)) := by
  refine ⟨min (budget / (samples.toUInt64 * codec.bytesPerSample)) (UInt64.ofNat bankSize), ?_, ?_⟩
  · rw [maxChannelsWithin, if_neg positive]
  · have bank : (UInt64.ofNat bankSize).toNat = bankSize := rfl
    rw [toNat_min, UInt64.toNat_div, toNat_frameBytes, bank, Nat.min_comm]

/-- The channel limit is the greatest count in a bank whose frames fit the budget. -/
theorem maxChannelsWithin_exact (codec : Codec) (samples : UInt32) (budget : UInt64)
    (positive : samples ≠ 0) :
    ∃ limit, maxChannelsWithin codec samples budget = .ok limit ∧
      ∀ count, count ≤ limit.toNat ↔ count ≤ bankSize ∧
        count * (samples.toNat * codec.bytesPerSample.toNat) ≤ budget.toNat := by
  obtain ⟨limit, limited, exact⟩ := maxChannelsWithin_eq codec samples budget positive
  refine ⟨limit, limited, ?_⟩
  intro count
  rw [exact, Nat.le_min, Nat.le_div_iff_mul_le (frameBytes_pos codec samples positive)]

end NetAudio
