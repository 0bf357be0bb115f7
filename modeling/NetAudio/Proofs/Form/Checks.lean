import NetAudio.Form.StreamChecks
import NetAudio.Proofs.Form.Findings
import NetAudio.Proofs.Packet.Limits

/-!
# What a valid draft satisfies

A draft is valid exactly when its fields meet stated conditions on numbers and texts.  The
conditions are in natural numbers, so that nothing in them can wrap or be cut off.
-/

set_option autoImplicit false

namespace NetAudio

structure SourceDraft.Acceptable (draft : SourceDraft) (context : FormContext) : Prop where
  id : draft.id.toNat ≤ 63
  name : draft.name ≠ ""
  address : draft.address = "" ∨ (Ipv4.ofText? draft.address).isSome
  ttl : 1 ≤ draft.ttl.toNat ∧ draft.ttl.toNat ≤ 255
  payloadType : 77 ≤ draft.payloadType.toNat ∧ draft.payloadType.toNat ≤ 127
  dscp : draft.dscp ∈ [46, 34, 26, 0]
  samples : draft.maxSamplesPerPacket ∈ [6, 12, 16, 48, 96, 192]
  ceiling : draft.maxSamplesPerPacket.toNat ≤
    context.clock.ticFrameSize.toNat * context.clock.frameMultiplier.toNat
  budget : draft.map.count *
    (draft.maxSamplesPerPacket.toNat * draft.codec.bytesPerSample.toNat) ≤ context.budget.toNat

namespace SourceDraft

theorem distinct_checks (draft : SourceDraft) (context : FormContext) :
    ((draft.validate context).checks.map (·.1)).Nodup := by
  show [Field.id, .name, .address, .ttl, .payloadType, .dscp, .maxSamplesPerPacket, .channels].Nodup
  decide

theorem checkSamples_eq_none (samples : UInt32) (clock : Clock) :
    (checkSamples samples clock).2 = none ↔ samples ∈ [6, 12, 16, 48, 96, 192] ∧
      samples.toNat ≤ clock.ticFrameSize.toNat * clock.frameMultiplier.toNat := by
  have offered : packetSizes.contains samples = true ↔ samples ∈ [6, 12, 16, 48, 96, 192] := by
    simp [packetSizes]
  rw [checkSamples]
  by_cases listed : packetSizes.contains samples = true
  · rw [if_pos listed, Issue.ifAbove_eq_none, clock.le_ceiling_iff]
    exact ⟨fun below => ⟨offered.mp listed, below⟩, And.right⟩
  · rw [if_neg listed]
    constructor
    · intro found
      cases found
    · intro both
      exact absurd (offered.mpr both.1) listed

theorem checkChannels_eq_none (draft : SourceDraft) (budget : UInt64)
    (positive : draft.maxSamplesPerPacket ≠ 0) :
    (draft.checkChannels budget).2 = none ↔ draft.map.count *
      (draft.maxSamplesPerPacket.toNat * draft.codec.bytesPerSample.toNat) ≤ budget.toNat := by
  obtain ⟨limit, limited, fits⟩ :=
    maxChannelsWithin_exact draft.codec draft.maxSamplesPerPacket budget positive
  have bank : draft.map.count ≤ bankSize := by
    have within := draft.map.fits
    omega
  rw [checkChannels, limited, Issue.ifAbove_eq_none, fits]
  exact and_iff_right bank

/-- A source draft is valid exactly when it is acceptable. -/
theorem isValid_iff_acceptable (draft : SourceDraft) (context : FormContext) :
    (draft.validate context).isValid = true ↔ draft.Acceptable context := by
  have positive : draft.maxSamplesPerPacket ∈ [6, 12, 16, 48, 96, 192] →
      draft.maxSamplesPerPacket ≠ 0 := by
    intro listed zero
    rw [zero] at listed
    exact absurd listed (by decide)
  rw [Validation.isValid_iff]
  simp only [validate, List.forall_mem_cons, checkId, checkName, checkAddress,
    Issue.unlessIn_eq_none, Issue.unlessGiven_eq_none, Issue.unlessFormed_eq_none,
    Issue.unlessOffered_eq_none, checkSamples_eq_none]
  constructor
  · rintro ⟨id, name, address, ttl, payloadType, dscp, ⟨samples, ceiling⟩, channels, -⟩
    exact {
      id := id.2
      name := name
      address := by simpa using address
      ttl := ttl
      payloadType := payloadType
      dscp := by simpa [Dscp.all, Dscp.codepoint] using dscp
      samples := samples
      ceiling := ceiling
      budget := (checkChannels_eq_none draft _ (positive samples)).mp channels }
  · intro acceptable
    refine ⟨⟨Nat.zero_le _, acceptable.id⟩, acceptable.name, ?_, acceptable.ttl,
      acceptable.payloadType, ?_, ⟨acceptable.samples, acceptable.ceiling⟩, ?_, by simp⟩
    · simpa using acceptable.address
    · simpa [Dscp.all, Dscp.codepoint] using acceptable.dscp
    · exact (checkChannels_eq_none draft _ (positive acceptable.samples)).mpr acceptable.budget

end SourceDraft

end NetAudio
