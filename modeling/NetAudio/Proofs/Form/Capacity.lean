import NetAudio.Proofs.Form.Selectors
import NetAudio.Proofs.Form.SourceFaults

/-!
# Capacity

Two faults of a source depend on the context of its form: packets above the ceiling of the clock, and
channels above the limit that the budget sets.  More room makes no fault, and neither does a draft that
asks for less.  All other faults are those of the draft alone.
-/

set_option autoImplicit false

namespace NetAudio

/-- The issues that are no matter of capacity. -/
def Validation.fixedErrors (validation : Validation) : List (Field × Issue) :=
  validation.errors.filter fun error => !error.2.isCapacity

theorem Validation.fixedErrors_congr {one other : Validation}
    (same : ∀ field issue, issue.isCapacity = false →
      (one.issue? field = some issue ↔ other.issue? field = some issue)) :
    one.fixedErrors = other.fixedErrors := by
  have fixed (validation : Validation) : validation.fixedErrors = Field.all.filterMap fun field =>
      ((validation.issue? field).filter fun issue => !issue.isCapacity).map (field, ·) := by
    rw [fixedErrors, errors, List.filter_filterMap]
    refine List.filterMap_congr ?_
    intro field _
    cases validation.issue? field with
    | none => rfl
    | some issue =>
        cases told : issue.isCapacity with
        | false => simp [Option.filter, told]
        | true => simp [Option.filter, told]
  rw [fixed one, fixed other]
  refine List.filterMap_congr ?_
  intro field _
  congr 1
  ext issue
  simp only [Option.filter_eq_some_iff, Bool.not_eq_true']
  exact and_congr_left (same field issue)

namespace SourceDraft

/-! ## Faults in two contexts -/

/-- A draft asks for no more room than another one: for packets no larger and on offer, unless they are
of the same size, for samples of no more bytes, and for no more channels.  All else that is judged is
the same. -/
structure Eases (eased draft : SourceDraft) : Prop where
  id : eased.id = draft.id
  name : eased.name = draft.name
  address : eased.address = draft.address
  ttl : eased.ttl = draft.ttl
  payloadType : eased.payloadType = draft.payloadType
  dscp : eased.dscp = draft.dscp
  offered : eased.maxSamplesPerPacket = draft.maxSamplesPerPacket ∨
    eased.maxSamplesPerPacket ∈ [6, 12, 16, 48, 96, 192]
  samples : eased.maxSamplesPerPacket.toNat ≤ draft.maxSamplesPerPacket.toNat
  bytes : eased.codec.bytesPerSample.toNat ≤ draft.codec.bytesPerSample.toNat
  channels : eased.map.count ≤ draft.map.count

theorem Eases.refl (draft : SourceDraft) : draft.Eases draft :=
  ⟨rfl, rfl, rfl, rfl, rfl, rfl, .inl rfl, Nat.le_refl _, Nat.le_refl _, Nat.le_refl _⟩

section Contexts
variable {eased draft : SourceDraft} {first second : FormContext} {field : Field} {issue : Issue}

theorem channelLimit_mono (eases : eased.Eases draft) (filled : 0 < eased.maxSamplesPerPacket.toNat)
    (budget : first.budget.toNat ≤ second.budget.toNat) :
    draft.channelLimit first ≤ eased.channelLimit second := by
  have bytes : 0 < eased.codec.bytesPerSample.toNat := by cases eased.codec <;> decide
  have frame : eased.maxSamplesPerPacket.toNat * eased.codec.bytesPerSample.toNat ≤
      draft.maxSamplesPerPacket.toNat * draft.codec.bytesPerSample.toNat :=
    Nat.mul_le_mul eases.samples eases.bytes
  have quotient := Nat.div_le_div budget frame (Nat.ne_of_gt (Nat.mul_pos filled bytes))
  rw [channelLimit, channelLimit]
  omega

/-- With more room, a draft that asks for less has faults only in fields where the other one has. -/
theorem Fault.of_eases (eases : eased.Eases draft)
    (ceilings : SourceDraft.ceiling first ≤ SourceDraft.ceiling second)
    (budget : first.budget.toNat ≤ second.budget.toNat) (fault : eased.Fault second field issue) :
    ∃ cause, draft.Fault first field cause := by
  cases fault with
  | id large => exact ⟨_, .id (eases.id ▸ large)⟩
  | name empty => exact ⟨_, .name (eases.name ▸ empty)⟩
  | address given other => exact ⟨_, .address (eases.address ▸ given) (eases.address ▸ other)⟩
  | ttl outside => exact ⟨_, .ttl (eases.ttl ▸ outside)⟩
  | payloadType outside => exact ⟨_, .payloadType (eases.payloadType ▸ outside)⟩
  | dscp other => exact ⟨_, .dscp (eases.dscp ▸ other)⟩
  | samples other =>
      rcases eases.offered with same | listed
      · exact ⟨_, .samples (same ▸ other)⟩
      · exact absurd listed other
  | ceiling offered above =>
      -- The larger packets of the other draft may be above the ceiling or not on offer at all.
      by_cases listed : draft.maxSamplesPerPacket ∈ [6, 12, 16, 48, 96, 192]
      · have samples := eases.samples
        exact ⟨_, .ceiling listed (by omega)⟩
      · exact ⟨_, .samples listed⟩
  | channels filled above =>
      have limits := channelLimit_mono eases filled budget
      have samples := eases.samples
      have channels := eases.channels
      exact ⟨_, .channels (by omega) (by omega)⟩

theorem Fault.in_context (fault : draft.Fault first field issue) (fixed : issue.isCapacity = false)
    (context : FormContext) : draft.Fault context field issue := by
  cases fault with
  | id large => exact .id large
  | name empty => exact .name empty
  | address given other => exact .address given other
  | ttl outside => exact .ttl outside
  | payloadType outside => exact .payloadType outside
  | dscp other => exact .dscp other
  | samples other => exact .samples other
  | ceiling offered above => cases fixed
  | channels filled above => cases fixed

end Contexts

/-! ## Validations in two contexts -/

theorem reports (draft : SourceDraft) (context : FormContext) :
    (draft.validate context).Reports (draft.Fault context) :=
  Validation.reports_of_checks (draft.distinct_checks context) (draft.mem_checks_iff context)

theorem fixedErrors_validate (draft : SourceDraft) (first second : FormContext) :
    (draft.validate first).fixedErrors = (draft.validate second).fixedErrors := by
  apply Validation.fixedErrors_congr
  intro field issue fixed
  rw [(draft.reports first).issue, (draft.reports second).issue]
  constructor
  · intro fault
    exact fault.in_context fixed second
  · intro fault
    exact fault.in_context fixed first

section Eased
variable {eased draft : SourceDraft} {first second : FormContext} (eases : eased.Eases draft)
  (ceilings : ceiling first ≤ ceiling second) (budget : first.budget.toNat ≤ second.budget.toNat)
include eases ceilings budget

theorem flagged_of_eases : ((eased.validate second).errors.map (·.1)).Sublist
    ((draft.validate first).errors.map (·.1)) := by
  rw [Validation.fields_errors, Validation.fields_errors]
  apply List.monotone_filter_right
  intro field flagged
  obtain ⟨issue, found⟩ := Option.isSome_iff_exists.mp flagged
  obtain ⟨cause, fault⟩ :=
    Fault.of_eases eases ceilings budget (((eased.reports second).issue field issue).mp found)
  rw [((draft.reports first).issue field cause).mpr fault]
  rfl

theorem valid_of_eases (valid : (draft.validate first).isValid = true) :
    (eased.validate second).isValid = true := by
  rw [(eased.reports second).valid]
  intro field issue fault
  obtain ⟨cause, original⟩ := Fault.of_eases eases ceilings budget fault
  exact (draft.reports first).valid.mp valid field cause original

end Eased

/-- More room flags no more fields, whatever the draft, and the issues that are no matter of capacity
are the same in every context.  A valid draft stays valid with fewer channels, with smaller packets that
are on offer, and with the encoding of the fewest bytes. -/
theorem more_room_flags_no_more (draft : SourceDraft) :
    (∀ first second : FormContext,
      (draft.validate first).fixedErrors = (draft.validate second).fixedErrors) ∧
    (∀ first second : FormContext,
      first.clock.maxSamplesPerPacket ≤ second.clock.maxSamplesPerPacket →
      first.budget ≤ second.budget →
        ((draft.validate second).errors.map (·.1)).Sublist
          ((draft.validate first).errors.map (·.1))) ∧
    ∀ context : FormContext, (draft.validate context).isValid = true →
      (∀ count, 1 ≤ count → count ≤ draft.map.count →
        ∃ map, draft.map.resized count = .ok map ∧ map.count = count ∧
          (validate { draft with map } context).isValid = true) ∧
      (∀ samples ∈ packetSizes, samples ≤ draft.maxSamplesPerPacket →
        (validate { draft with maxSamplesPerPacket := samples } context).isValid = true) ∧
      (validate { draft with codec := .l16 } context).isValid = true := by
  refine ⟨draft.fixedErrors_validate, ?_, ?_⟩
  · intro first second ceilings budget
    rw [UInt32.le_iff_toNat_le, toNat_ceiling, toNat_ceiling] at ceilings
    exact flagged_of_eases (Eases.refl draft) ceilings (UInt64.le_iff_toNat_le.mp budget)
  · intro context valid
    have within {eased : SourceDraft} (eases : eased.Eases draft) :
        (eased.validate context).isValid = true :=
      valid_of_eases eases (Nat.le_refl _) (Nat.le_refl _) valid
    have same := Eases.refl draft
    refine ⟨?_, ?_, ?_⟩
    · intro count positive below
      have bank := draft.map.countable.2
      obtain ⟨map, resized, counted⟩ := draft.map.resized_of_le count positive (by omega)
      exact ⟨map, resized, counted, within { same with channels := counted ▸ below }⟩
    · intro samples offered below
      exact within { same with
        offered := .inr offered
        samples := UInt32.le_iff_toNat_le.mp below }
    · have fewest : Codec.l16.bytesPerSample.toNat ≤ draft.codec.bytesPerSample.toNat := by
        cases draft.codec <;> decide
      exact within { same with bytes := fewest }

/-- A source that uses up the ceiling and the budget, in its context and in one with less room. -/
theorem full_source_stays_valid_when_eased :
    let draft : SourceDraft := { withDefaults 0 with
      codec := .am824, maxSamplesPerPacket := 96, map := ⟨59, 5, by decide, by decide⟩ }
    let context : FormContext := ⟨⟨96000, 48, 2⟩, 1440⟩
    let tight : FormContext := ⟨⟨48000, 48, 1⟩, 1000⟩
    (draft.validate tight).fixedErrors = (draft.validate context).fixedErrors ∧
      ((draft.validate tight).errors.map (·.1)) = [.maxSamplesPerPacket, .channels] ∧
      ((draft.validate context).errors.map (·.1)).Sublist
        ((draft.validate tight).errors.map (·.1)) ∧
      (∃ map, draft.map.resized 3 = .ok map ∧ map.count = 3 ∧
        (validate { draft with map } context).isValid = true) ∧
      (validate { draft with maxSamplesPerPacket := 16 } context).isValid = true ∧
      (validate { draft with codec := .l16 } context).isValid = true := by
  intro draft context tight
  obtain ⟨fixed, contexts, eased⟩ := draft.more_room_flags_no_more
  obtain ⟨channels, samples, codec⟩ := eased context (by decide)
  have flagged := contexts tight context (by decide) (by decide)
  have fewer := channels 3 (by decide) (by decide)
  have smaller := samples 16 (by decide) (by decide)
  exact ⟨fixed tight context, by decide, flagged, fewer, smaller, codec⟩

end SourceDraft

end NetAudio
