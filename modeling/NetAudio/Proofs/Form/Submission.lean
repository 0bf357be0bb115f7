import NetAudio.Proofs.Form.Checks
import NetAudio.Proofs.Form.Run
import NetAudio.Proofs.Stream.Records

/-!
# Submits

A submit begins exactly where it is enabled, since a valid draft always becomes a record; and the
records that forms send are within limits that a daemon may rely on, whatever was done to the form
before.
-/

set_option autoImplicit false

namespace NetAudio

/-! ## Enablement -/

theorem SourceDraft.Acceptable.toSource {draft : SourceDraft} {context : FormContext}
    (acceptable : draft.Acceptable context) :
    ∃ record, draft.toSource = .ok record ∧ record.Copies draft := by
  have small : draft.payloadType.toNat ≤ 255 := by
    have bound := acceptable.payloadType.2
    omega
  obtain ⟨record, converted⟩ := draft.toSource_of_le acceptable.ttl.2 small
  exact ⟨record, converted, SourceDraft.copies_of_toSource converted⟩

/-- The narrowing of numbers never fails on a valid draft. -/
theorem toUpdate_of_valid (kind : StreamKind) (draft : kind.Draft) (context : FormContext)
    (valid : (StreamDraft.validate draft context).isValid = true) :
    ∃ sent, StreamDraft.toUpdate draft = .ok sent := by
  cases kind with
  | source =>
      have acceptable := (SourceDraft.isValid_iff_acceptable draft context).mp valid
      obtain ⟨record, converted, -⟩ := acceptable.toSource
      refine ⟨.source record, ?_⟩
      show (SourceDraft.toSource draft).map StreamUpdate.source = _
      rw [converted]
      rfl
  | sink => exact ⟨_, rfl⟩

section Enablement
variable {kind : StreamKind}

theorem canSubmit_iff (form : EditForm kind.Draft) :
    form.canSubmit = true ↔ form.state = .editing ∧ form.validate.isValid = true := by
  simp [EditForm.canSubmit]

theorem beginSubmit_of_canSubmit (form : EditForm kind.Draft) (enabled : form.canSubmit = true) :
    ∃ sent, StreamDraft.toUpdate form.draft = .ok sent ∧
      carryOut EditForm.beginSubmit form = (.ok sent, { form with state := .submitting }) := by
  obtain ⟨editing, valid⟩ := (canSubmit_iff form).mp enabled
  obtain ⟨sent, carries⟩ := toUpdate_of_valid kind form.draft form.context valid
  refine ⟨sent, carries, ?_⟩
  rw [carryOut_beginSubmit, if_pos editing, if_pos valid, carries]

theorem beginSubmit_of_invalid (form : EditForm kind.Draft) (editing : form.state = .editing)
    (invalid : form.validate.isValid = false) :
    carryOut EditForm.beginSubmit form =
      (.error (.form (.invalid form.validate.errorCount)), form) := by
  rw [carryOut_beginSubmit, if_pos editing, if_neg (by simp [invalid])]

theorem beginSubmit_of_not_editing (form : EditForm kind.Draft) (busy : form.state ≠ .editing) :
    carryOut EditForm.beginSubmit form = (.error (.form (.notEditing form.state)), form) := by
  rw [carryOut_beginSubmit, if_neg busy]

theorem beginSubmit_of_not_canSubmit (form : EditForm kind.Draft)
    (disabled : form.canSubmit = false) :
    ∃ cause, carryOut EditForm.beginSubmit form = (.error cause, form) := by
  by_cases editing : form.state = .editing
  · have invalid : form.validate.isValid = false := by
      simpa [EditForm.canSubmit, editing] using disabled
    exact ⟨_, beginSubmit_of_invalid form editing invalid⟩
  · exact ⟨_, beginSubmit_of_not_editing form editing⟩

theorem beginSubmit_cause (form after : EditForm kind.Draft) (cause : ConsoleError)
    (refused : carryOut EditForm.beginSubmit form = (.error cause, after)) :
    (form.state = .editing ∧ form.validate.isValid = false ∧
        cause = .form (.invalid form.validate.errorCount)) ∨
      (form.state ≠ .editing ∧ cause = .form (.notEditing form.state)) := by
  by_cases editing : form.state = .editing
  · cases checked : form.validate.isValid with
    | true =>
        obtain ⟨sent, -, begun⟩ := beginSubmit_of_canSubmit form
          ((canSubmit_iff form).mpr ⟨editing, checked⟩)
        rw [begun] at refused
        cases refused
    | false =>
        rw [beginSubmit_of_invalid form editing checked] at refused
        cases refused
        exact .inl ⟨editing, rfl, rfl⟩
  · rw [beginSubmit_of_not_editing form editing] at refused
    cases refused
    exact .inr ⟨editing, rfl⟩

end Enablement

/-- A submit begins exactly where the form says it can, and that is while it is edited and has no
issue.  Where it does not begin, the cause counts the issues or names the state; a number that fits
no record is never the cause. -/
theorem beginSubmit_exact (kind : StreamKind) (form : EditForm kind.Draft) :
    ((∃ sent after, carryOut EditForm.beginSubmit form = (.ok sent, after)) ↔
      form.canSubmit = true) ∧
    (form.canSubmit = true ↔
      form.state = .editing ∧ form.constraints.validation.isValid = true) ∧
    (∀ cause after, carryOut EditForm.beginSubmit form = (.error cause, after) →
      form.state = .editing →
        cause = .form (.invalid form.constraints.validation.errors.length) ∧
          1 ≤ form.constraints.validation.errors.length) ∧
    (∀ cause after, carryOut EditForm.beginSubmit form = (.error cause, after) →
      form.state ≠ .editing →
        cause = .form (.notEditing form.state) ∧
          (FormError.notEditing form.state).message =
            "Form is " ++ form.state.word ++ ", edits are not accepted") ∧
    (∀ cause after,
      carryOut EditForm.beginSubmit form ≠ (.error (.calculator cause), after)) ∧
    (form.validate.isValid = true → ∃ sent, StreamDraft.toUpdate form.draft = .ok sent) := by
  refine ⟨?_, canSubmit_iff form, ?_, ?_, ?_, toUpdate_of_valid kind form.draft form.context⟩
  · constructor
    · rintro ⟨sent, after, begun⟩
      rw [carryOut_beginSubmit] at begun
      split at begun
      · next editing =>
          split at begun
          · next valid => exact (canSubmit_iff form).mpr ⟨editing, valid⟩
          · cases begun
      · cases begun
    · intro enabled
      obtain ⟨sent, -, begun⟩ := beginSubmit_of_canSubmit form enabled
      exact ⟨sent, _, begun⟩
  · intro cause after refused editing
    rcases beginSubmit_cause form after cause refused with ⟨-, invalid, counted⟩ | ⟨busy, -⟩
    · exact ⟨counted, form.validate.errorCount_pos_iff.mpr invalid⟩
    · exact absurd editing busy
  · intro cause after refused busy
    rcases beginSubmit_cause form after cause refused with ⟨editing, -⟩ | ⟨-, named⟩
    · exact absurd editing busy
    · exact ⟨named, rfl⟩
  · intro cause after refused
    rcases beginSubmit_cause form after _ refused with ⟨-, -, named⟩ | ⟨-, named⟩
    · cases named
    · cases named

/-! ## Limits on what is sent -/

/-- What a daemon may rely on in a source that a form sends, in exact integers. -/
structure Source.WithinLimits (record : Source) (context : FormContext) : Prop where
  id : record.id.toNat ≤ 63
  name : record.name ≠ ""
  ttl : 1 ≤ record.ttl.toNat ∧ record.ttl.toNat ≤ 255
  payloadType : 77 ≤ record.payloadType.toNat ∧ record.payloadType.toNat ≤ 127
  dscp : record.dscp ∈ [46, 34, 26, 0]
  samples : record.maxSamplesPerPacket ∈ [6, 12, 16, 48, 96, 192]
  ceiling : record.maxSamplesPerPacket.toNat ≤
    context.clock.ticFrameSize.toNat * context.clock.frameMultiplier.toNat
  run : ∃ start count, 1 ≤ count ∧ start + count ≤ 64 ∧
    record.map.map UInt8.toNat = List.range' start count
  budget : record.map.length * record.maxSamplesPerPacket.toNat *
    record.codec.bytesPerSample.toNat ≤ context.budget.toNat

theorem Source.Copies.withinLimits {record : Source} {draft : SourceDraft}
    {context : FormContext} (copies : record.Copies draft)
    (acceptable : draft.Acceptable context) : record.WithinLimits context where
  id := by rw [copies.id]; exact acceptable.id
  name := by rw [copies.name]; exact acceptable.name
  ttl := by rw [copies.ttl]; exact acceptable.ttl
  payloadType := by rw [copies.payloadType]; exact acceptable.payloadType
  dscp := by rw [copies.dscp]; exact acceptable.dscp
  samples := by rw [copies.maxSamplesPerPacket]; exact acceptable.samples
  ceiling := by rw [copies.maxSamplesPerPacket]; exact acceptable.ceiling
  run := by
    rw [copies.map, draft.map.toNat_indices]
    exact ⟨draft.map.start, draft.map.count, draft.map.count_pos, draft.map.fits, rfl⟩
  budget := by
    rw [copies.map, draft.map.length_indices, copies.maxSamplesPerPacket, copies.codec,
      Nat.mul_assoc]
    exact acceptable.budget

theorem sent_of_move {kind : StreamKind} {form after : EditForm kind.Draft}
    {step : FormStep kind} {answer : FormAnswer} {sent : StreamUpdate}
    (move : FormMove form step answer after)
    (sends : FormEvent.sent? ⟨form, step, answer, after⟩ = some sent) :
    form.validate.isValid = true ∧ StreamDraft.toUpdate form.draft = .ok sent := by
  cases move with
  | kept _ _ failure => cases failure <;> cases sends
  | edited _ draft editing sameId => cases sends
  | begun update editing valid carries =>
      cases sends
      exact ⟨valid, carries⟩
  | accepted submitting => cases sends
  | returned cause submitting => cases sends

/-- Whatever is done to a form of a source, each update that it sends is a record within the limits
of the form's context, with the values of the draft at that moment. -/
theorem run_sends_within_limits (mode : EditMode) (draft : SourceDraft) (context : FormContext)
    (steps : List (FormStep .source)) (event : FormEvent .source)
    (happened : event ∈ @EditForm.events .source (.start mode draft context) steps)
    (sent : StreamUpdate) (sends : event.sent? = some sent) :
    ∃ record, sent = .source record ∧ record.WithinLimits context ∧
      record.Copies event.before.draft := by
  obtain ⟨move, sameContext⟩ := events_move _ steps event happened
  obtain ⟨valid, carries⟩ := sent_of_move move sends
  have acceptable : SourceDraft.Acceptable event.before.draft event.before.context :=
    (SourceDraft.isValid_iff_acceptable _ _).mp valid
  obtain ⟨record, converted, copies⟩ := acceptable.toSource
  refine ⟨record, ?_, ?_, copies⟩
  · have carried : (SourceDraft.toSource event.before.draft).map StreamUpdate.source =
        .ok sent := carries
    rw [converted] at carried
    exact (Except.ok.inj carried).symm
  · rw [sameContext] at acceptable
    exact copies.withinLimits acceptable

/-- A second submit after a refusal, of packets that use up the ceiling and the budget. -/
theorem resubmitted_source_within_limits :
    ∃ record : Source,
      FormEvent.sent? (eventOf FormStep.perform .beginSubmit (@EditForm.afterRun .source
        (.start .add (SourceDraft.withDefaults 2) ⟨⟨96000, 48, 2⟩, 1440⟩)
        [.setCodec .l24, .setSamples 96, .setStart 20, .setChannels 70, .setChannels 5,
          .beginSubmit, .finishSubmit (.error (.rejected 500 "busy"))])) =
        some (.source record) ∧
      record.map = [20, 21, 22, 23, 24] ∧ record.WithinLimits ⟨⟨96000, 48, 2⟩, 1440⟩ := by
  obtain ⟨record, sent, within, copies⟩ :=
    run_sends_within_limits .add (SourceDraft.withDefaults 2) ⟨⟨96000, 48, 2⟩, 1440⟩
      [.setCodec .l24, .setSamples 96, .setStart 20, .setChannels 70, .setChannels 5,
        .beginSubmit, .finishSubmit (.error (.rejected 500 "busy")), .beginSubmit]
      _ (.tail _ (.tail _ (.tail _ (.tail _ (.tail _ (.tail _ (.tail _ (.head _)))))))) _ rfl
  exact ⟨record, congrArg some sent, copies.map, within⟩

end NetAudio
