import NetAudio.Proofs.Packet.Options

/-!
# Rates, policies and ceilings

The policies differ only in rates that no daemon supports.  One of them refuses such a rate, and does so
before it looks at the packet time; the other one takes the packet time for the ceiling.  On the rates
that are supported the frame multiplier is a step function which does not fall, so a clock of a higher
rate and a longer packet time allows whatever the other clock allows.
-/

set_option autoImplicit false

namespace NetAudio

/-! ## Supported rates -/

namespace SampleRate

def Supported (hz : UInt32) : Prop :=
  hz ∈ [44100, 48000, 88200, 96000, 176400, 192000, 352800, 384000]
  deriving Decidable

theorem supported_iff (hz : UInt32) : Supported hz ↔ ∃ rate : SampleRate, rate.hz = hz := by
  constructor
  · intro listed
    have listed : hz ∈ all.map SampleRate.hz := listed
    obtain ⟨rate, -, same⟩ := List.mem_map.mp listed
    exact ⟨rate, same⟩
  · intro given
    obtain ⟨rate, rfl⟩ := given
    rw [Supported]
    cases rate <;> decide

theorem ofHz_eq_ok_iff (hz : UInt32) (rate : SampleRate) : ofHz hz = .ok rate ↔ rate.hz = hz := by
  constructor
  · intro found
    rw [ofHz] at found
    split at found
    · next among =>
        cases found
        simpa using List.find?_some among
    · cases found
  · rintro rfl
    cases rate <;> rfl

theorem ofHz_of_unsupported {hz : UInt32} (missing : ¬ Supported hz) :
    ofHz hz = .error (.unsupportedSampleRate hz) := by
  cases found : ofHz hz with
  | ok rate => exact absurd ((supported_iff hz).mpr ⟨rate, (ofHz_eq_ok_iff hz rate).mp found⟩) missing
  | error cause =>
      rw [ofHz] at found
      split at found
      · cases found
      · rw [← Except.error.inj found]

/-- The multiplier depends on how fast a rate is and not on its family. -/
theorem frameMultiplier_eq (rate : SampleRate) :
    rate.frameMultiplier.toNat =
      if rate.hz.toNat < 88200 then 1
      else if rate.hz.toNat < 176400 then 2
      else if rate.hz.toNat < 352800 then 4
      else 8 := by
  cases rate <;> rfl

theorem frameMultiplier_mono {slow fast : SampleRate} (order : slow.hz ≤ fast.hz) :
    slow.frameMultiplier.toNat ≤ fast.frameMultiplier.toNat := by
  rw [UInt32.le_iff_toNat_le] at order
  rw [frameMultiplier_eq, frameMultiplier_eq]
  grind

end SampleRate

namespace Clock
variable {hz ticFrameSize multiplier : UInt32}

/-! ## Clocks under each policy -/

/-- The clock of a rate that is taken for this multiple of its base rate. -/
def ofMultiplier (hz ticFrameSize multiplier : UInt32) : Except CalculatorError Clock :=
  if ticFrameSize = 0 then
    .error (.invalidArgument "tic_frame_size_at_1fs must be positive")
  else
    .ok ⟨hz, ticFrameSize, multiplier⟩

theorem ofMultiplier_of_ne_zero (filled : ticFrameSize ≠ 0) :
    ofMultiplier hz ticFrameSize multiplier = .ok ⟨hz, ticFrameSize, multiplier⟩ := by
  rw [ofMultiplier, if_neg filled]

theorem ofMultiplier_eq_error_iff (cause : CalculatorError) :
    ofMultiplier hz ticFrameSize multiplier = .error cause ↔
      ticFrameSize = 0 ∧ cause = .invalidArgument "tic_frame_size_at_1fs must be positive" := by
  by_cases empty : ticFrameSize = 0
  · simp [ofMultiplier, empty, eq_comm]
  · simp [ofMultiplier, empty]

theorem checkTicFrameSize_bind (hz ticFrameSize multiplier : UInt32) :
    (checkTicFrameSize ticFrameSize >>= fun _ => pure ⟨hz, ticFrameSize, multiplier⟩) =
      ofMultiplier hz ticFrameSize multiplier := by
  rw [checkTicFrameSize, ofMultiplier]
  split <;> rfl

/-- The policy does not matter for a rate that a daemon can run at. -/
theorem resolve_of_supported {rate : SampleRate} (supported : rate.hz = hz) (policy : RatePolicy) :
    resolve hz ticFrameSize policy = ofMultiplier hz ticFrameSize rate.frameMultiplier := by
  have found := (SampleRate.ofHz_eq_ok_iff hz rate).mpr supported
  simp only [resolve, found, ofRate]
  rw [checkTicFrameSize_bind, supported]

theorem resolve_degraded (missing : ¬ SampleRate.Supported hz) :
    resolve hz ticFrameSize .degradeToBase = ofMultiplier hz ticFrameSize 1 := by
  simp only [resolve, SampleRate.ofHz_of_unsupported missing]
  rw [checkTicFrameSize_bind]

theorem resolve_rejected (missing : ¬ SampleRate.Supported hz) :
    resolve hz ticFrameSize .reject = .error (.unsupportedSampleRate hz) := by
  simp only [resolve, SampleRate.ofHz_of_unsupported missing]

structure PoliciesAgree (hz ticFrameSize : UInt32) : Prop where
  degraded : ∀ cause, resolve hz ticFrameSize .degradeToBase = .error cause ↔
    ticFrameSize = 0 ∧ cause = .invalidArgument "tic_frame_size_at_1fs must be positive"
  /-- An unsupported rate is told before an empty packet time. -/
  rejected : ∀ cause, resolve hz ticFrameSize .reject = .error cause ↔
    (¬ SampleRate.Supported hz ∧ cause = .unsupportedSampleRate hz) ∨
      (SampleRate.Supported hz ∧ ticFrameSize = 0 ∧
        cause = .invalidArgument "tic_frame_size_at_1fs must be positive")
  same : ∀ clock, resolve hz ticFrameSize .reject = .ok clock →
    resolve hz ticFrameSize .degradeToBase = .ok clock
  /-- Where only one policy gives a clock, the clock is as it was asked for. -/
  kept : ∀ clock cause, resolve hz ticFrameSize .degradeToBase = .ok clock →
    resolve hz ticFrameSize .reject = .error cause →
      clock.sampleRate = hz ∧ clock.ticFrameSize = ticFrameSize ∧
        clock.maxSamplesPerPacket = ticFrameSize

theorem maxSamplesPerPacket_base (hz ticFrameSize : UInt32) :
    maxSamplesPerPacket ⟨hz, ticFrameSize, 1⟩ = ticFrameSize := by
  have word : ticFrameSize.toNat < UInt32.size := ticFrameSize.toNat_lt
  have one : (1 : UInt32).toNat = 1 := rfl
  have ceiling := toNat_maxSamplesPerPacket ⟨hz, ticFrameSize, 1⟩
  apply UInt32.toNat_inj.mp
  simp only [one] at ceiling
  omega

theorem policiesAgree_of_supported {rate : SampleRate} (supported : rate.hz = hz)
    (ticFrameSize : UInt32) : PoliciesAgree hz ticFrameSize := by
  have known : SampleRate.Supported hz := (SampleRate.supported_iff hz).mpr ⟨rate, supported⟩
  have either (policy : RatePolicy) := @resolve_of_supported hz ticFrameSize rate supported policy
  constructor
  · intro cause
    rw [either]
    exact ofMultiplier_eq_error_iff cause
  · intro cause
    rw [either, ofMultiplier_eq_error_iff]
    simp [known]
  · intro clock made
    rw [either] at made ⊢
    exact made
  · intro clock cause made refused
    rw [either] at made refused
    rw [made] at refused
    cases refused

theorem policiesAgree_of_unsupported (missing : ¬ SampleRate.Supported hz) (ticFrameSize : UInt32) :
    PoliciesAgree hz ticFrameSize := by
  have degraded := @resolve_degraded hz ticFrameSize missing
  have rejected := @resolve_rejected hz ticFrameSize missing
  constructor
  · intro cause
    rw [degraded]
    exact ofMultiplier_eq_error_iff cause
  · intro cause
    rw [rejected, Except.error.injEq]
    simp [missing, eq_comm]
  · intro clock made
    rw [rejected] at made
    cases made
  · intro clock cause made refused
    rw [degraded] at made
    by_cases empty : ticFrameSize = 0
    · rw [(ofMultiplier_eq_error_iff _).mpr ⟨empty, rfl⟩] at made
      cases made
    · rw [ofMultiplier_of_ne_zero empty] at made
      cases made
      exact ⟨rfl, rfl, maxSamplesPerPacket_base hz ticFrameSize⟩

theorem policiesAgree (hz ticFrameSize : UInt32) : PoliciesAgree hz ticFrameSize := by
  by_cases known : SampleRate.Supported hz
  · obtain ⟨rate, supported⟩ := (SampleRate.supported_iff hz).mp known
    exact policiesAgree_of_supported supported ticFrameSize
  · exact policiesAgree_of_unsupported known ticFrameSize

/-! ## Clocks with more room -/

/-- The clock that both policies give, with the exact product as its ceiling where a word holds it. -/
structure RunsAt (clock : Clock) (hz ticFrameSize : UInt32) : Prop where
  resolved : ∀ policy, resolve hz ticFrameSize policy = .ok clock
  ceiling : ∃ multiplier, normalizedFrameMultiplier hz = .ok multiplier ∧
    clock.maxSamplesPerPacket.toNat = min 4294967295 (ticFrameSize.toNat * multiplier.toNat)

structure Covers (wide narrow : Clock) : Prop where
  ceiling : narrow.maxSamplesPerPacket ≤ wide.maxSamplesPerPacket
  packets : ∀ samples, narrow.allows samples = true → wide.allows samples = true
  options : ∀ option ∈ narrow.packetOptions, option.allowed = true → option ∈ wide.packetOptions

theorem runsAt_of_supported {rate : SampleRate} (supported : rate.hz = hz) (filled : 0 < ticFrameSize) :
    RunsAt ⟨hz, ticFrameSize, rate.frameMultiplier⟩ hz ticFrameSize := by
  have nonempty : ticFrameSize ≠ 0 := UInt32.pos_iff_ne_zero.mp filled
  constructor
  · intro policy
    rw [resolve_of_supported supported]
    exact ofMultiplier_of_ne_zero nonempty
  · refine ⟨rate.frameMultiplier, ?_, ?_⟩
    · rw [normalizedFrameMultiplier, (SampleRate.ofHz_eq_ok_iff hz rate).mpr supported]
      rfl
    · rw [toNat_maxSamplesPerPacket, Nat.min_comm]
      rfl

/-- The strict policy gives a clock only to a supported rate and a packet time that holds samples. -/
theorem runsAt_of_resolve {clock : Clock} (made : resolve hz ticFrameSize .reject = .ok clock) :
    SampleRate.Supported hz ∧ 0 < ticFrameSize ∧ clock.RunsAt hz ticFrameSize := by
  by_cases known : SampleRate.Supported hz
  · obtain ⟨rate, supported⟩ := (SampleRate.supported_iff hz).mp known
    have filled : 0 < ticFrameSize := by
      apply UInt32.pos_iff_ne_zero.mpr
      intro empty
      rw [resolve_of_supported supported, (ofMultiplier_eq_error_iff _).mpr ⟨empty, rfl⟩] at made
      cases made
    have runs := runsAt_of_supported supported filled
    rw [runs.resolved] at made
    cases made
    exact ⟨known, filled, runs⟩
  · rw [resolve_rejected known] at made
    cases made

theorem covers_of_product_le {narrow wide : Clock}
    (order : narrow.ticFrameSize.toNat * narrow.frameMultiplier.toNat ≤
      wide.ticFrameSize.toNat * wide.frameMultiplier.toNat) : wide.Covers narrow := by
  have packets (samples : UInt32) (allowed : narrow.allows samples = true) :
      wide.allows samples = true := by
    rw [allows_iff] at allowed ⊢
    exact Nat.le_trans allowed order
  refine ⟨?_, packets, ?_⟩
  · rw [UInt32.le_iff_toNat_le, toNat_maxSamplesPerPacket, toNat_maxSamplesPerPacket]
    omega
  · intro option offered allowed
    obtain ⟨samples, listed, rfl⟩ := List.mem_map.mp offered
    apply List.mem_map.mpr
    exact ⟨samples, listed, by rw [packets samples allowed, ← allowed]⟩

end Clock

/-- A policy decides only about rates that no daemon supports, where the permissive one takes the packet
time for the ceiling.  Supported rates have clocks under both, and neither a higher rate nor a longer
packet time takes away a packet that a clock allows. -/
theorem policies_are_conservative :
    (∀ hz ticFrameSize, Clock.PoliciesAgree hz ticFrameSize) ∧
    ∀ slow fast short long : UInt32, SampleRate.Supported slow → SampleRate.Supported fast →
      slow ≤ fast → 0 < short → short ≤ long →
        ∃ narrow wide : Clock,
          narrow.RunsAt slow short ∧ wide.RunsAt fast long ∧ wide.Covers narrow := by
  refine ⟨Clock.policiesAgree, ?_⟩
  intro slow fast short long lower higher rates filled times
  obtain ⟨first, rfl⟩ := (SampleRate.supported_iff slow).mp lower
  obtain ⟨second, rfl⟩ := (SampleRate.supported_iff fast).mp higher
  rw [UInt32.le_iff_toNat_le] at times
  have longer : 0 < long := by
    rw [UInt32.lt_iff_toNat_lt] at filled ⊢
    omega
  have multipliers := SampleRate.frameMultiplier_mono rates
  have products := Nat.mul_le_mul times multipliers
  exact ⟨_, _, Clock.runsAt_of_supported rfl filled, Clock.runsAt_of_supported rfl longer,
    Clock.covers_of_product_le products⟩

/-- The ceiling of 96 kHz is exact and the one of 352.8 kHz is held.  At 32 kHz the policies differ. -/
theorem held_ceiling_covers_exact_one :
    (∃ narrow wide : Clock, narrow.RunsAt 96000 768 ∧ wide.RunsAt 352800 536870912 ∧
      wide.Covers narrow ∧ narrow.maxSamplesPerPacket = 1536 ∧
      wide.maxSamplesPerPacket = 4294967295) ∧
    Clock.resolve 32000 0 .reject = .error (.unsupportedSampleRate 32000) ∧
    ∀ clock, Clock.resolve 32000 48 .degradeToBase = .ok clock → clock.maxSamplesPerPacket = 48 := by
  obtain ⟨agree, rise⟩ := policies_are_conservative
  obtain ⟨narrow, wide, exact, held, covers⟩ :=
    rise 96000 352800 768 536870912 (by decide) (by decide) (by decide) (by decide) (by decide)
  have unsupported : ¬ SampleRate.Supported 32000 := by decide
  refine ⟨⟨narrow, wide, exact, held, covers, ?_, ?_⟩, ?_, ?_⟩
  · cases exact.resolved .reject
    rfl
  · cases held.resolved .reject
    rfl
  · exact ((agree 32000 0).rejected _).mpr (.inl ⟨unsupported, rfl⟩)
  · intro clock made
    have refused := ((agree 32000 48).rejected _).mpr (.inl ⟨unsupported, rfl⟩)
    exact ((agree 32000 48).kept clock _ made refused).2.2

end NetAudio
