import NetAudio.Proofs.Form.Selectors
import NetAudio.Proofs.Report.Runs

/-!
# The report and the form of a new source

The report and the form of a source use the calculator apart from each other.  For a source with default
settings, the encoding of the report and the packet size of a row, the form has an issue with the packet
size exactly if the row is disabled, and one with the channels exactly above the limit in the row.
-/

set_option autoImplicit false

namespace NetAudio.Report

def sourceForm (mode : EditMode) (id : UInt8) (codec : Codec) (samples : UInt32) (clock : Clock) :
    EditForm SourceDraft :=
  .start mode { SourceDraft.withDefaults id with codec, maxSamplesPerPacket := samples }
    ⟨clock, defaultPacketBudget⟩

structure Row.Agrees (row : Row) (form : EditForm SourceDraft) : Prop where
  samples : (form.validate.issue? .maxSamplesPerPacket).isSome = true ↔ row.disabled = true
  channels : ∀ count, 1 ≤ count → count ≤ 64 →
    ∃ after, carryOut (EditForm.setChannels count) form = (.ok (), after) ∧
      ((after.validate.issue? .channels).isSome = true ↔ row.limit < count)

theorem maxChannels_of_ok (draft : SourceDraft) {budget limit : UInt64}
    (limited : maxChannelsWithin draft.codec draft.maxSamplesPerPacket budget = .ok limit) :
    draft.maxChannels budget = limit := by
  rw [SourceDraft.maxChannels, limited]

section Offered
variable {clock : Clock} {option : PacketOption} (offered : option ∈ clock.packetOptions)
include offered

theorem mem_packetOptions_iff_allowed :
    ⟨option.samples, true⟩ ∈ clock.packetOptions ↔ option.allowed = true := by
  constructor
  · intro listed
    rw [Clock.allowed_of_mem offered, ← Clock.allowed_of_mem listed]
  · intro allowed
    rw [← allowed]
    exact offered

theorem Row.samples_agree (codec : Codec) (mode : EditMode) (id : UInt8) :
    let form := sourceForm mode id codec option.samples clock
    (form.validate.issue? .maxSamplesPerPacket).isSome = true ↔
      (Row.of codec option).disabled = true := by
  intro form
  have found : form.validate.issue? .maxSamplesPerPacket =
      (SourceDraft.checkSamples option.samples clock).2 := SourceDraft.issue?_samples _ _
  rw [found, Option.isSome_iff_ne_none, ne_eq, SourceDraft.checkSamples_eq_none_iff_mem,
    mem_packetOptions_iff_allowed offered]
  simp [Row.of]

theorem Row.channels_agree (codec : Codec) (mode : EditMode) (id : UInt8) (count : Nat)
    (positive : 1 ≤ count) (bank : count ≤ 64) :
    let form := sourceForm mode id codec option.samples clock
    ∃ after, carryOut (EditForm.setChannels count) form = (.ok (), after) ∧
      ((after.validate.issue? .channels).isSome = true ↔ (Row.of codec option).limit < count) := by
  intro form
  have filled := samples_ne_zero offered
  obtain ⟨limit, limited, exact⟩ := maxChannels_eq codec option filled
  have shown : form.constraints.maxChannels = limit := maxChannels_of_ok form.draft limited
  have packets : form.draft.maxSamplesPerPacket ≠ 0 := filled
  -- What the form offers is what its checks compare with.
  obtain ⟨after, edited, found⟩ := (EditForm.sourceChoicesAgree form rfl).channels count positive bank
  refine ⟨after, edited, ?_⟩
  rw [found, shown, exact]
  simp [packets]

end Offered

theorem Row.agrees {codec : Codec} {clock : Clock} {row : Row} (listed : row ∈ rows codec clock)
    (mode : EditMode) (id : UInt8) : row.Agrees (sourceForm mode id codec row.samples clock) := by
  obtain ⟨option, offered, rfl⟩ := List.mem_map.mp listed
  constructor
  · exact Row.samples_agree offered codec mode id
  · exact Row.channels_agree offered codec mode id

theorem samples_rows (codec : Codec) (clock : Clock) :
    (rows codec clock).map (·.samples) = [6, 12, 16, 48, 96, 192] := by
  rw [rows, List.map_map]
  exact clock.samples_packetOptions

/-- A run succeeds exactly for arguments that spell a sound request, and nothing behind the fifth counts.
It prints a row for each packet size on offer, which tells the issues that the form of a new source has
with that size.  The table always prints, and no run ends as an empty packet would end it, for want of a
channel limit. -/
theorem report_agrees_with_form (args : List String) :
    ((run args).code = 0 ↔ ∃ request, Spelt args request ∧ request.Sound) ∧
    (∀ request, Spelt args request → request.Sound →
      ∃ clock, Clock.resolve request.hz request.ticFrameSize .reject = .ok clock ∧
        run args = ⟨0, joined (request.lines clock), ""⟩ ∧
        (rows request.codec clock).map (·.samples) = [6, 12, 16, 48, 96, 192] ∧
        ∀ row ∈ rows request.codec clock, ∀ mode id,
          row.Agrees (sourceForm mode id request.codec row.samples clock)) ∧
    ((run args).stderr ≠ limitFailure.text ∧
      (∀ (codec : Codec) (clock : Clock), Prints (clock.packetOptions.forM (row codec))
        ((rows codec clock).map Row.text) (.ok ())) ∧
      ∀ (codec : Codec) (allowed : Bool),
        Prints (row codec ⟨0, allowed⟩) [] (.error limitFailure)) ∧
    run args = run (args.take 5) := by
  refine ⟨code_eq_zero_iff args, ?_, ⟨stderr_ne_limit args, prints_table, prints_row_of_empty⟩,
    run_take args⟩
  intro request spelt sound
  obtain ⟨clock, made, ended⟩ := run_of_sound spelt sound
  refine ⟨clock, made, ended, samples_rows request.codec clock, ?_⟩
  intro row listed mode id
  exact Row.agrees listed mode id

/-- A rate with a sign, an encoding in small letters, the last channels and an argument too many. -/
theorem report_of_last_channels :
    let args := ["+48000", "48", "l24", "4", "60", "more"]
    let request : Request := ⟨48000, 48, .l24, some (4, 60)⟩
    (Spelt args request ∧ request.Sound ∧ (run args).code = 0 ∧
      run args = run ["+48000", "48", "l24", "4", "60"]) ∧
    ∃ clock, Clock.resolve 48000 48 .reject = .ok clock ∧
      run args = ⟨0, joined (request.lines clock), ""⟩ ∧
      rows .l24 clock = [⟨6, 64, false⟩, ⟨12, 40, false⟩, ⟨16, 30, false⟩, ⟨48, 10, false⟩, ⟨96, 5, true⟩,
        ⟨192, 2, true⟩] ∧
      ∀ row ∈ rows .l24 clock, row.Agrees (sourceForm .add 63 .l24 row.samples clock) := by
  intro args request
  have rated : Decimal.Spells "+48000".toList (48000 : UInt32).toNat :=
    (readWord_eq_ok_iff "+48000" 48000).mp (by decide)
  have timed : Decimal.Spells "48".toList (48 : UInt32).toNat :=
    (readWord_eq_ok_iff "48" 48).mp (by decide)
  have counted : SpellsCount "4" 4 := (readCount_eq_ok_iff "4" 4).mp (by decide)
  have started : SpellsCount "60" 60 := (readCount_eq_ok_iff "60" 60).mp (by decide)
  have spelt : Spelt args request := .given rated timed (by decide) (.given counted (.given started))
  have sound : request.Sound := by
    refine ⟨by decide, by decide, ?_⟩
    intro count start same
    cases same
    decide
  obtain ⟨succeeds, printed, -, ignored⟩ := report_agrees_with_form args
  obtain ⟨clock, made, ended, -, agree⟩ := printed request spelt sound
  refine ⟨⟨spelt, sound, succeeds.mpr ⟨request, spelt, sound⟩, ignored⟩, clock, made, ended, ?_, ?_⟩
  · cases made
    decide
  · intro row listed
    exact agree row listed .add 63

end NetAudio.Report
