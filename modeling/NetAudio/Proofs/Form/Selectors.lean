import NetAudio.Proofs.ChannelMap.Lists
import NetAudio.Proofs.Form.Checks
import NetAudio.Proofs.Form.Run

/-!
# Selectors and checks

A form offers packet sizes, a channel limit and starts, and it checks what is chosen.  Offers and
checks are computed apart; here they are shown to say the same of every choice.
-/

set_option autoImplicit false

namespace NetAudio

/-! ## The map of a draft -/

namespace ChannelMap

theorem resized_of_le (map : ChannelMap) (count : Nat) (positive : 1 ≤ count)
    (bank : count ≤ bankSize) : ∃ resized, map.resized count = .ok resized ∧ resized.count = count := by
  obtain ⟨resized, made, length, -⟩ := map.resized_of_countable ⟨positive, bank⟩
  exact ⟨resized, made, length⟩

theorem mem_startOffsets (map : ChannelMap) (start : Nat) :
    start ∈ map.startOffsets ↔ start ≤ bankSize - map.count := by
  rw [startOffsets, List.mem_range, Nat.lt_succ_iff]

theorem withStart_cases (map : ChannelMap) (start : Nat) :
    (start ∈ map.startOffsets ∧
        ∃ moved, map.withStart start = .ok moved ∧ moved.count = map.count) ∨
      (start ∉ map.startOffsets ∧ ∃ cause, map.withStart start = .error cause) := by
  rw [mem_startOffsets]
  by_cases room : start ≤ bankSize - map.count
  · obtain ⟨moved, made, length, -⟩ := contiguous_of_fits map.count start map.countable room
    exact .inl ⟨room, moved, made, length⟩
  · exact .inr ⟨room, _, contiguous_of_overflow map.count start map.countable room⟩

end ChannelMap

section Maps
variable {kind : StreamKind}

theorem map_withMap (draft : kind.Draft) (map : ChannelMap) :
    StreamDraft.map (StreamDraft.withMap draft map) = map := by
  cases kind <;> rfl

theorem maxChannels_withMap (draft : kind.Draft) (map : ChannelMap) (context : FormContext) :
    StreamDraft.maxChannels (StreamDraft.withMap draft map) context =
      StreamDraft.maxChannels draft context := by
  cases kind <;> rfl

end Maps

/-! ## The issues of one field -/

namespace SourceDraft
variable (draft : SourceDraft) (context : FormContext)

theorem issue?_samples :
    (draft.validate context).issue? .maxSamplesPerPacket =
      (checkSamples draft.maxSamplesPerPacket context.clock).2 := by
  have listed : checkSamples draft.maxSamplesPerPacket context.clock ∈
      (draft.validate context).checks := by simp [validate]
  exact Validation.issue?_of_mem (draft.distinct_checks context) listed

theorem issue?_channels :
    (draft.validate context).issue? .channels = (draft.checkChannels context.budget).2 := by
  have listed : draft.checkChannels context.budget ∈ (draft.validate context).checks := by
    simp [validate]
  exact Validation.issue?_of_mem (draft.distinct_checks context) listed

/-- A packet size is offered and allowed exactly if the check of it finds nothing. -/
theorem checkSamples_eq_none_iff_mem (samples : UInt32) (clock : Clock) :
    (checkSamples samples clock).2 = none ↔ ⟨samples, true⟩ ∈ clock.packetOptions := by
  have listed : ⟨samples, true⟩ ∈ clock.packetOptions ↔
      samples ∈ packetSizes ∧ samples ≤ clock.maxSamplesPerPacket := by
    simp only [Clock.packetOptions, Clock.allows, List.mem_map, PacketOption.mk.injEq,
      decide_eq_true_eq]
    constructor
    · rintro ⟨size, offered, rfl, below⟩
      exact ⟨offered, below⟩
    · rintro ⟨offered, below⟩
      exact ⟨samples, offered, rfl, below⟩
  rw [listed, checkSamples, UInt32.le_iff_toNat_le]
  by_cases offered : samples ∈ packetSizes
  · simp [offered]
  · simp [offered]

/-- The check of the channels compares with the limit on offer, unless packets are empty. -/
theorem checkChannels_eq (budget : UInt64) :
    (draft.checkChannels budget).2 =
      if draft.maxSamplesPerPacket ≠ 0 ∧ (draft.maxChannels budget).toNat < draft.map.count then
        some (.capacityExceeded draft.map.count (draft.maxChannels budget).toNat)
      else none := by
  by_cases empty : draft.maxSamplesPerPacket = 0
  · simp [checkChannels, maxChannelsWithin, empty]
  · simp [checkChannels, maxChannels, maxChannelsWithin, empty, Issue.ifAbove]

theorem maxChannels_of_empty (budget : UInt64) (empty : draft.maxSamplesPerPacket = 0) :
    draft.maxChannels budget = 0 := by
  simp [maxChannels, maxChannelsWithin, empty]

theorem invalid_of_empty (empty : draft.maxSamplesPerPacket = 0) :
    (draft.validate context).isValid = false := by
  rw [Bool.eq_false_iff]
  intro valid
  have offered := ((isValid_iff_acceptable draft context).mp valid).samples
  rw [empty] at offered
  exact absurd offered (by decide)

end SourceDraft

theorem SinkDraft.issue?_channels (draft : SinkDraft) : draft.validate.issue? .channels = none := by
  rw [Validation.issue?_eq_none_iff]
  have described : draft.checkDescription.1 ≠ .channels := by
    rw [checkDescription]
    split <;> simp
  simp [validate, checkId, checkName, described]

/-! ## What a form offers and what it takes -/

section Setters
variable {kind : StreamKind} (form : EditForm kind.Draft) (editing : form.state = .editing)
include editing

theorem setChannels_of_le (count : Nat) (positive : 1 ≤ count) (bank : count ≤ bankSize) :
    ∃ map, map.count = count ∧ carryOut (EditForm.setChannels count) form =
      (.ok (), { form with draft := StreamDraft.withMap form.draft map }) := by
  obtain ⟨map, resized, counted⟩ :=
    ChannelMap.resized_of_le (StreamDraft.map form.draft) count positive bank
  refine ⟨map, counted, ?_⟩
  rw [EditForm.setChannels, carryOut_changeMap, if_pos editing, resized]

/-- A start that is offered is taken and leaves the offers as they are; another one is refused. -/
theorem setStart_cases (start : Nat) :
    (start ∈ form.constraints.startOffsets ∧
        ∃ after, carryOut (EditForm.setStart start) form = (.ok (), after) ∧
          after.constraints.startOffsets = form.constraints.startOffsets ∧
          after.constraints.maxChannels = form.constraints.maxChannels) ∨
      (start ∉ form.constraints.startOffsets ∧
        ∃ cause, carryOut (EditForm.setStart start) form = (.error cause, form)) := by
  rw [EditForm.setStart, carryOut_changeMap, if_pos editing]
  rcases (StreamDraft.map form.draft).withStart_cases start with
    ⟨offered, moved, run, counted⟩ | ⟨missing, cause, run⟩
  · rw [run]
    refine .inl ⟨offered, _, rfl, ?_, maxChannels_withMap form.draft moved form.context⟩
    simp only [EditForm.constraints, map_withMap, ChannelMap.startOffsets, counted]
  · rw [run]
    exact .inr ⟨missing, _, rfl⟩

end Setters

theorem setSamples_of_editing (form : EditForm SourceDraft) (editing : form.state = .editing)
    (samples : UInt32) :
    carryOut (EditForm.setSamples samples) form =
      (.ok (), { form with draft := { form.draft with maxSamplesPerPacket := samples } }) :=
  carryOut_update_of_sameId _ form editing rfl

namespace EditForm

structure StartsAgree {kind : StreamKind} (form : EditForm kind.Draft) : Prop where
  offers : form.constraints.startOffsets ≠ []
  taken : ∀ start, (∃ after, carryOut (setStart start) form = (.ok (), after)) ↔
    start ∈ form.constraints.startOffsets
  kept : ∀ start after, carryOut (setStart start) form = (.ok (), after) →
    after.constraints.startOffsets = form.constraints.startOffsets ∧
      after.constraints.maxChannels = form.constraints.maxChannels

/-- The allowed packet sizes are those without an issue, and channels have an issue above the limit
on offer; empty packets, for which the limit is none, are an issue of their own. -/
structure SourceChoicesAgree (form : EditForm SourceDraft) : Prop where
  samples : ∀ samples, ∃ after, carryOut (setSamples samples) form = (.ok (), after) ∧
    (after.validate.issue? .maxSamplesPerPacket = none ↔
      ⟨samples, true⟩ ∈ form.constraints.packetOptions)
  channels : ∀ count, 1 ≤ count → count ≤ 64 →
    ∃ after, carryOut (setChannels count) form = (.ok (), after) ∧
      after.validate.issue? .channels =
        if form.draft.maxSamplesPerPacket ≠ 0 ∧ form.constraints.maxChannels.toNat < count then
          some (.capacityExceeded count form.constraints.maxChannels.toNat)
        else none
  empty : form.draft.maxSamplesPerPacket = 0 → form.constraints.maxChannels = 0 ∧
    ∀ count, 1 ≤ count → count ≤ 64 →
      ∃ after, carryOut (setChannels count) form = (.ok (), after) ∧
        after.validate.isValid = false

structure SinkChoicesAgree (form : EditForm SinkDraft) : Prop where
  limit : form.constraints.maxChannels = 64
  channels : ∀ count, 1 ≤ count → count ≤ 64 →
    ∃ after, carryOut (setChannels count) form = (.ok (), after) ∧
      after.validate.issue? .channels = none

theorem startsAgree {kind : StreamKind} (form : EditForm kind.Draft)
    (editing : form.state = .editing) : form.StartsAgree where
  offers := by simp [constraints, ChannelMap.startOffsets]
  taken := by
    intro start
    rcases setStart_cases form editing start with ⟨offered, after, run, _⟩ | ⟨missing, cause, run⟩
    · exact iff_of_true ⟨after, run⟩ offered
    · refine iff_of_false ?_ missing
      rintro ⟨after, taken⟩
      rw [run] at taken
      cases taken
  kept := by
    intro start after taken
    rcases setStart_cases form editing start with ⟨_, moved, run, kept⟩ | ⟨_, cause, run⟩
    · rw [run] at taken
      cases taken
      exact kept
    · rw [run] at taken
      cases taken

theorem sourceChoicesAgree (form : EditForm SourceDraft) (editing : form.state = .editing) :
    form.SourceChoicesAgree where
  samples := by
    intro samples
    refine ⟨_, setSamples_of_editing form editing samples, ?_⟩
    rw [validate]
    exact (iff_of_eq (congrArg (· = none) (SourceDraft.issue?_samples _ _))).trans
      (SourceDraft.checkSamples_eq_none_iff_mem samples form.context.clock)
  channels := by
    intro count positive bank
    obtain ⟨map, counted, run⟩ := @setChannels_of_le .source form editing count positive bank
    refine ⟨_, run, ?_⟩
    have found := SourceDraft.issue?_channels { form.draft with map } form.context
    rw [SourceDraft.checkChannels_eq] at found
    rw [← counted]
    exact found
  empty := by
    intro empty
    refine ⟨SourceDraft.maxChannels_of_empty form.draft form.context.budget empty, ?_⟩
    intro count positive bank
    obtain ⟨map, _, run⟩ := @setChannels_of_le .source form editing count positive bank
    exact ⟨_, run, SourceDraft.invalid_of_empty { form.draft with map } form.context empty⟩

theorem sinkChoicesAgree (form : EditForm SinkDraft) (editing : form.state = .editing) :
    form.SinkChoicesAgree where
  limit := rfl
  channels := by
    intro count positive bank
    obtain ⟨map, _, run⟩ := @setChannels_of_le .sink form editing count positive bank
    exact ⟨_, run, SinkDraft.issue?_channels { form.draft with map }⟩

/-- What a form offers while it is edited is what its checks and its map take. -/
theorem choices_agree :
    (∀ form : EditForm SourceDraft, form.state = .editing →
      form.SourceChoicesAgree ∧ @StartsAgree .source form) ∧
    (∀ form : EditForm SinkDraft, form.state = .editing →
      form.SinkChoicesAgree ∧ @StartsAgree .sink form) := by
  constructor
  · intro form editing
    exact ⟨sourceChoicesAgree form editing, @startsAgree .source form editing⟩
  · intro form editing
    exact ⟨sinkChoicesAgree form editing, @startsAgree .sink form editing⟩

/-- The form of a new source, and the same with empty packets. -/
theorem default_source_choices_agree :
    let form : EditForm SourceDraft :=
      .start .add (SourceDraft.withDefaults 0) ⟨⟨48000, 48, 1⟩, 1440⟩
    let empty : EditForm SourceDraft :=
      { form with draft := { form.draft with maxSamplesPerPacket := 0 } }
    form.constraints.maxChannels = 15 ∧ form.SourceChoicesAgree ∧ @StartsAgree .source form ∧
      empty.constraints.maxChannels = 0 ∧ empty.SourceChoicesAgree ∧ @StartsAgree .source empty :=
  ⟨rfl, (choices_agree.1 _ rfl).1, (choices_agree.1 _ rfl).2, rfl, (choices_agree.1 _ rfl).1,
    (choices_agree.1 _ rfl).2⟩

end EditForm

end NetAudio
