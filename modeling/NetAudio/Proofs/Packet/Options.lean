import NetAudio.Proofs.Packet.Limits

/-!
# Packet sizes on offer

A clock judges a packet by its ceiling, a product that is held at the largest 32-bit word; the same
packet can be judged by the exact product, as a 64-bit word.  The products differ where the ceiling is
held, but no packet is longer than the largest word, so both judge every packet alike.  The sizes on
offer ascend, so those that a clock allows come first.
-/

set_option autoImplicit false

namespace NetAudio

/-- In an ascending list, what a test keeps comes first if the test keeps whatever is below what it
keeps. -/
theorem filter_prefix_of_ascending {α : Type} {below : α → α → Prop} {keeps : α → Bool}
    (downward : ∀ lower upper, below lower upper → keeps upper = true → keeps lower = true)
    (values : List α) (ascending : values.Pairwise below) : values.filter keeps <+: values := by
  induction values with
  | nil => exact List.nil_prefix
  | cons first rest ih =>
      obtain ⟨above, tail⟩ := List.pairwise_cons.mp ascending
      cases kept : keeps first with
      | true =>
          rw [List.filter_cons_of_pos kept]
          exact List.cons_prefix_cons.mpr ⟨rfl, ih tail⟩
      | false =>
          have none : rest.filter keeps = [] := by
            rw [List.filter_eq_nil_iff]
            intro value member later
            have earlier := downward first value (above value member) later
            rw [kept] at earlier
            cases earlier
          rw [List.filter_cons_of_neg (by simp [kept]), none]
          exact List.nil_prefix

/-! ## Packets by the exact product -/

theorem SampleRate.frameMultiplier_le (rate : SampleRate) : rate.frameMultiplier.toNat ≤ 8 := by
  cases rate <;> decide

/-- The 64-bit product does not wrap. -/
theorem samplesAllowed_iff (samples ticFrameSize : UInt32) (rate : SampleRate) :
    samplesAllowed samples ticFrameSize rate = true ↔
      samples.toNat ≤ ticFrameSize.toNat * rate.frameMultiplier.toNat := by
  have tic : ticFrameSize.toNat ≤ UInt32.size := Nat.le_of_lt ticFrameSize.toNat_lt
  have product := Nat.mul_le_mul tic rate.frameMultiplier_le
  have room : UInt32.size * 8 < 2 ^ 64 := by decide
  have exact : (ticFrameSize.toUInt64 * rate.frameMultiplier.toUInt64).toNat =
      ticFrameSize.toNat * rate.frameMultiplier.toNat := by
    rw [UInt64.toNat_mul, UInt32.toNat_toUInt64, UInt32.toNat_toUInt64]
    exact Nat.mod_eq_of_lt (by omega)
  rw [samplesAllowed, decide_eq_true_iff, UInt64.le_iff_toNat_le, exact, UInt32.toNat_toUInt64]

namespace Clock

theorem allows_iff (clock : Clock) (samples : UInt32) :
    clock.allows samples = true ↔
      samples.toNat ≤ clock.ticFrameSize.toNat * clock.frameMultiplier.toNat := by
  rw [allows, decide_eq_true_iff, UInt32.le_iff_toNat_le]
  exact clock.le_ceiling_iff samples

theorem ofRate_of_ne_zero (rate : SampleRate) {ticFrameSize : UInt32} (filled : ticFrameSize ≠ 0) :
    ofRate rate ticFrameSize =
      .ok { sampleRate := rate.hz, ticFrameSize, frameMultiplier := rate.frameMultiplier } := by
  rw [ofRate, checkTicFrameSize, if_neg filled]
  rfl

/-! ## The sizes that a clock allows -/

theorem samples_packetOptions (clock : Clock) : clock.packetOptions.map (·.samples) = packetSizes := by
  rw [packetOptions, List.map_map]
  exact List.map_id packetSizes

theorem allowed_of_mem {clock : Clock} {option : PacketOption}
    (offered : option ∈ clock.packetOptions) : option.allowed = clock.allows option.samples := by
  obtain ⟨samples, -, rfl⟩ := List.mem_map.mp offered
  rfl

/-- A clock that allows a packet allows every shorter one. -/
theorem allows_of_le (clock : Clock) (shorter longer : UInt32) (order : shorter ≤ longer)
    (allowed : clock.allows longer = true) : clock.allows shorter = true := by
  rw [allows_iff] at allowed ⊢
  exact Nat.le_trans (UInt32.le_iff_toNat_le.mp order) allowed

theorem samples_allowedOptions (clock : Clock) :
    (clock.packetOptions.filter (·.allowed)).map (·.samples) = packetSizes.filter clock.allows := by
  rw [packetOptions, List.filter_map, List.map_map]
  exact List.map_id _

theorem allowedOptions_prefix (clock : Clock) :
    (clock.packetOptions.filter (·.allowed)).map (·.samples) <+: packetSizes := by
  rw [samples_allowedOptions]
  exact filter_prefix_of_ascending clock.allows_of_le packetSizes (by decide)

end Clock

/-- The clock of a rate and a packet time allows exactly the packets that the exact product allows, also
where its ceiling is held at the largest word.  Every size on offer is flagged so, and the allowed ones
come first. -/
theorem clock_allows_exact_product (rate : SampleRate) (ticFrameSize : UInt32)
    (filled : 1 ≤ ticFrameSize) :
    ∃ clock, Clock.ofRate rate ticFrameSize = .ok clock ∧
      clock.maxSamplesPerPacket.toNat =
        min (ticFrameSize.toNat * rate.frameMultiplier.toNat) 4294967295 ∧
      (∀ samples, clock.allows samples = samplesAllowed samples ticFrameSize rate ∧
        (samplesAllowed samples ticFrameSize rate = true ↔
          samples.toNat ≤ ticFrameSize.toNat * rate.frameMultiplier.toNat)) ∧
      clock.packetOptions.map (·.samples) = packetSizes ∧
      (∀ option ∈ clock.packetOptions,
        option.allowed = samplesAllowed option.samples ticFrameSize rate) ∧
      (clock.packetOptions.filter (·.allowed)).map (·.samples) <+: packetSizes := by
  have positive : ticFrameSize ≠ 0 := by
    intro empty
    rw [empty] at filled
    exact absurd filled (by decide)
  have agree (samples : UInt32) :
      Clock.allows ⟨rate.hz, ticFrameSize, rate.frameMultiplier⟩ samples =
        samplesAllowed samples ticFrameSize rate := by
    rw [Bool.eq_iff_iff, Clock.allows_iff, samplesAllowed_iff]
  refine ⟨_, Clock.ofRate_of_ne_zero rate positive, Clock.toNat_maxSamplesPerPacket _, ?_,
    Clock.samples_packetOptions _, ?_, Clock.allowedOptions_prefix _⟩
  · intro samples
    exact ⟨agree samples, samplesAllowed_iff samples ticFrameSize rate⟩
  · intro option offered
    rw [Clock.allowed_of_mem offered]
    exact agree option.samples

/-- At the longest packet time of the highest rate the ceiling is held, far below the product. -/
theorem held_ceiling_allows_exact_product :
    ∃ clock, Clock.ofRate .hz384000 4294967295 = .ok clock ∧
      clock.maxSamplesPerPacket = 4294967295 ∧
      (UInt32.toNat 4294967295) * (SampleRate.frameMultiplier .hz384000).toNat = 34359738360 ∧
      ∀ samples, clock.allows samples = samplesAllowed samples 4294967295 .hz384000 := by
  obtain ⟨clock, made, ceiling, allowed, -⟩ :=
    clock_allows_exact_product .hz384000 4294967295 (by decide)
  exact ⟨clock, made, UInt32.toNat_inj.mp ceiling, rfl, fun samples => (allowed samples).1⟩

end NetAudio
