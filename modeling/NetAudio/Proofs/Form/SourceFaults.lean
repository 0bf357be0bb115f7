import NetAudio.Proofs.Form.Checks
import NetAudio.Proofs.Net.Ipv4

/-!
# What is wrong with a source

The faults of a source draft, each with the field that it is reported under and its issue.  The numbers
are exact integers and an address is compared with the dotted form of addresses.  The checks of a
source report exactly these, and what the checks do not look at does not matter.
-/

set_option autoImplicit false

namespace NetAudio

theorem checkId_eq_some (issue : Issue) (id : UInt8) :
    (checkId id).2 = some issue ↔ 63 < id.toNat ∧ issue = .outOfRange id.toNat 0 63 := by
  have last : maxStreams - 1 = 63 := rfl
  simp [checkId, last, Issue.unlessIn_eq_some]

namespace SourceDraft

def ceiling (context : FormContext) : Nat :=
  min (UInt32.size - 1) (context.clock.ticFrameSize.toNat * context.clock.frameMultiplier.toNat)

theorem toNat_ceiling (context : FormContext) :
    context.clock.maxSamplesPerPacket.toNat = ceiling context := by
  rw [Clock.toNat_maxSamplesPerPacket, Nat.min_comm]
  rfl

def channelLimit (draft : SourceDraft) (context : FormContext) : Nat :=
  min 64 (context.budget.toNat /
    (draft.maxSamplesPerPacket.toNat * draft.codec.bytesPerSample.toNat))

inductive Fault (draft : SourceDraft) (context : FormContext) : Field → Issue → Prop where
  | id (large : 63 < draft.id.toNat) : Fault draft context .id (.outOfRange draft.id.toNat 0 63)
  | name (empty : draft.name = "") : Fault draft context .name .required
  | address (given : draft.address ≠ "") (other : ∀ address : Ipv4, draft.address ≠ address.text) :
      Fault draft context .address .malformed
  | ttl (outside : draft.ttl.toNat < 1 ∨ 255 < draft.ttl.toNat) :
      Fault draft context .ttl (.outOfRange draft.ttl.toNat 1 255)
  | payloadType (outside : draft.payloadType.toNat < 77 ∨ 127 < draft.payloadType.toNat) :
      Fault draft context .payloadType (.outOfRange draft.payloadType.toNat 77 127)
  | dscp (other : draft.dscp ∉ [46, 34, 26, 0]) : Fault draft context .dscp .notOffered
  | samples (other : draft.maxSamplesPerPacket ∉ [6, 12, 16, 48, 96, 192]) :
      Fault draft context .maxSamplesPerPacket .notOffered
  | ceiling (offered : draft.maxSamplesPerPacket ∈ [6, 12, 16, 48, 96, 192])
      (above : ceiling context < draft.maxSamplesPerPacket.toNat) :
      Fault draft context .maxSamplesPerPacket
        (.capacityExceeded draft.maxSamplesPerPacket.toNat (ceiling context))
  | channels (filled : 0 < draft.maxSamplesPerPacket.toNat)
      (above : draft.channelLimit context < draft.map.count) :
      Fault draft context .channels
        (.capacityExceeded draft.map.count (draft.channelLimit context))

/-! ## What each check finds -/

section Checks
variable (issue : Issue)

theorem checkAddress_eq_some (address : String) :
    (checkAddress address).2 = some issue ↔
      (address ≠ "" ∧ ∀ parsed : Ipv4, address ≠ parsed.text) ∧ issue = .malformed := by
  have unread : (Ipv4.ofText? address).isSome = false ↔ ∀ parsed : Ipv4, address ≠ parsed.text := by
    rw [← Bool.not_eq_true, Ipv4.isSome_ofText?_iff, not_exists]
  rw [checkAddress, Issue.unlessFormed_eq_some, Bool.or_eq_false_iff, unread,
    ← Bool.not_eq_true, String.isEmpty_iff]

theorem checkSamples_eq_some (samples : UInt32) (context : FormContext) :
    (checkSamples samples context.clock).2 = some issue ↔
      (samples ∉ [6, 12, 16, 48, 96, 192] ∧ issue = .notOffered) ∨
        ((samples ∈ [6, 12, 16, 48, 96, 192] ∧ ceiling context < samples.toNat) ∧
          issue = .capacityExceeded samples.toNat (ceiling context)) := by
  have offered : packetSizes.contains samples = true ↔ samples ∈ [6, 12, 16, 48, 96, 192] := by
    simp [packetSizes]
  rw [checkSamples, toNat_ceiling]
  by_cases listed : packetSizes.contains samples = true
  · have among := offered.mp listed
    rw [if_pos listed, Issue.ifAbove_eq_some]
    simp [among]
  · have missing := mt offered.mpr listed
    rw [if_neg listed, Option.some.injEq, eq_comm]
    simp [missing]

theorem checkChannels_eq_some (draft : SourceDraft) (context : FormContext) :
    (draft.checkChannels context.budget).2 = some issue ↔
      (0 < draft.maxSamplesPerPacket.toNat ∧ draft.channelLimit context < draft.map.count) ∧
        issue = .capacityExceeded draft.map.count (draft.channelLimit context) := by
  by_cases empty : draft.maxSamplesPerPacket = 0
  · simp [checkChannels, maxChannelsWithin, empty]
  · have filled : 0 < draft.maxSamplesPerPacket.toNat := by
      rw [Nat.pos_iff_ne_zero]
      exact fun none => empty (UInt32.toNat_inj.mp none)
    obtain ⟨limit, limited, exact⟩ :=
      maxChannelsWithin_eq draft.codec draft.maxSamplesPerPacket context.budget empty
    have same : limit.toNat = draft.channelLimit context := exact
    simp only [checkChannels, limited]
    rw [same, Issue.ifAbove_eq_some]
    simp [filled]

end Checks

theorem mem_checks_iff (draft : SourceDraft) (context : FormContext) (field : Field) (issue : Issue) :
    (field, some issue) ∈ (draft.validate context).checks ↔ draft.Fault context field issue := by
  have codepoints : Dscp.all.map Dscp.codepoint = [46, 34, 26, 0] := rfl
  simp only [validate, codepoints, List.mem_cons, List.not_mem_nil, or_false, Check.found_iff]
  simp only [checkId_eq_some, checkName, checkAddress_eq_some, checkSamples_eq_some,
    checkChannels_eq_some, Issue.unlessIn_eq_some, Issue.unlessGiven_eq_some,
    Issue.unlessOffered_contains_eq_some]
  simp only [checkId, checkAddress, checkSamples, checkChannels]
  constructor
  · rintro (⟨rfl, large, rfl⟩ | ⟨rfl, empty, rfl⟩ | ⟨rfl, ⟨given, other⟩, rfl⟩ |
      ⟨rfl, outside, rfl⟩ | ⟨rfl, outside, rfl⟩ | ⟨rfl, other, rfl⟩ |
      ⟨rfl, ⟨other, rfl⟩ | ⟨⟨offered, above⟩, rfl⟩⟩ | ⟨rfl, ⟨filled, above⟩, rfl⟩)
    · exact .id large
    · exact .name empty
    · exact .address given other
    · exact .ttl outside
    · exact .payloadType outside
    · exact .dscp other
    · exact .samples other
    · exact .ceiling offered above
    · exact .channels filled above
  · intro fault
    cases fault with
    | id large => simp [large]
    | name empty => simp [empty]
    | address given other => simp [given, other]
    | ttl outside => simpa using outside
    | payloadType outside => simp [outside]
    | dscp other => simp [other]
    | samples other => simp [other]
    | ceiling offered above => simp [offered, above]
    | channels filled above => simp [filled, above]

/-- The checks report every fault of a source draft and nothing else.  They do not look at whether the
source is on, at its device or its clock, or at where its channels start. -/
theorem source_faults_are_reported (draft : SourceDraft) (context : FormContext) :
    (draft.validate context).Reports (draft.Fault context) ∧
      ∀ (enabled : Bool) (io : String) (refclkPtpTraceable : Bool) (map : ChannelMap),
        map.count = draft.map.count →
          SourceDraft.validate { draft with enabled, io, refclkPtpTraceable, map } context =
            draft.validate context := by
  refine ⟨Validation.reports_of_checks (draft.distinct_checks context)
    (draft.mem_checks_iff context), ?_⟩
  intro enabled io refclkPtpTraceable map counted
  simp only [validate, checkChannels, counted]

/-- A source with too long packets has the same faults when it is off and has other channels. -/
theorem moved_source_has_same_faults :
    let draft : SourceDraft := { withDefaults 0 with maxSamplesPerPacket := 96 }
    let moved : SourceDraft := { draft with enabled := false, map := .stereoPair 7 }
    let context : FormContext := ⟨⟨48000, 48, 1⟩, 1440⟩
    (draft.validate context).issue? .maxSamplesPerPacket = some (.capacityExceeded 96 48) ∧
      moved.validate context = draft.validate context := by
  intro draft moved context
  have faults := draft.source_faults_are_reported context
  exact ⟨(faults.1.issue _ _).mpr (.ceiling (by decide) (by decide)),
    faults.2 false draft.io draft.refclkPtpTraceable (.stereoPair 7) rfl⟩

end SourceDraft

end NetAudio
