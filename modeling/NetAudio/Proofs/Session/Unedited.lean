import NetAudio.Proofs.Session.Submit
import NetAudio.Proofs.Stream.Retraction

/-!
# Drafts that are submitted as they were opened

Opening a stored stream and submitting it without an edit puts back what reading and writing make of
its record.  So the daemon stays as it was if the record holds a run of channels; if it does not, the run
that its list is anchored to takes the list's place, and from then on nothing changes.
-/

set_option autoImplicit false

namespace NetAudio

section Unedited
variable {kind : StreamKind}

def SubmitLeaves (form : EditForm kind.Draft) (daemon after : Daemon) : Prop :=
  (form.submit Daemon.send).run daemon =
    ((.ok .submitted, { form with state := .submitted, lastError := none }), after)

/-- A record that holds no run of channels is repaired, and nothing else is touched: the form that read
it reads the repaired record as the same draft, and submits it without a change. -/
structure SubmitRepairs (form : EditForm kind.Draft) (id : UInt8) (record : kind.Record)
    (daemon after : Daemon) : Prop where
  submitted : SubmitLeaves form daemon after
  repaired : (after.table kind).get? id =
    some (kind.withChannels record (StreamDraft.map form.draft).indices)
  changed : kind.withChannels record (StreamDraft.map form.draft).indices ≠ record
  elsewhere : daemon.AgreesElsewhere after kind id
  refusal : after.refusal = daemon.refusal
  readAgain : kind.read (kind.withChannels record (StreamDraft.map form.draft).indices) =
    .ok form.draft
  submittedAgain : SubmitLeaves form after after

theorem write_of_read {record : kind.Record} {draft : kind.Draft}
    (read : kind.read record = .ok draft) :
    kind.write draft = .ok (kind.withChannels record (StreamDraft.map draft).indices) := by
  cases taken : ChannelMap.ofRecord (kind.channels record) with
  | error cause =>
      rw [StreamKind.read_of_error taken] at read
      cases read
  | ok map =>
      obtain ⟨same, found, rfl, written⟩ := StreamKind.read_of_map taken
      rw [found] at read
      cases read
      exact written

theorem submit_unedited (context : FormContext) {record : kind.Record} {draft : kind.Draft}
    {daemon : Daemon} (clear : daemon.refusal = none) (read : kind.read record = .ok draft)
    (valid : (StreamDraft.validate draft context).isValid = true) :
    SubmitLeaves (.start .edit draft context) daemon
      (daemon.withRecord kind (kind.withChannels record (StreamDraft.map draft).indices)) := by
  have enabled : (EditForm.start .edit draft context).canSubmit = true :=
    (canSubmit_iff _).mpr ⟨rfl, valid⟩
  refine submit_puts _ daemon enabled clear _ ?_
  show StreamDraft.toUpdate draft = _
  rw [StreamKind.toUpdate_eq_map_write, write_of_read read]
  rfl

theorem repaired_eq_self_iff {record : kind.Record} {draft : kind.Draft}
    (read : kind.read record = .ok draft) :
    kind.withChannels record (StreamDraft.map draft).indices = record ↔
      ∃ map, ChannelMap.ofIndices (kind.channels record) = .ok map := by
  rw [← StreamKind.trip_eq_self_iff, StreamKind.trip, read]
  show _ ↔ kind.write draft = .ok record
  rw [write_of_read read, Except.ok.injEq]

theorem submit_repairs (context : FormContext) {id : UInt8} {record : kind.Record}
    {draft : kind.Draft} {daemon : Daemon} (clear : daemon.refusal = none)
    (holds : kind.recordId record = id) (read : kind.read record = .ok draft)
    (valid : (StreamDraft.validate draft context).isValid = true)
    (scattered : ¬ ∃ map, ChannelMap.ofIndices (kind.channels record) = .ok map) :
    SubmitRepairs (.start .edit draft context) id record daemon
      (daemon.withRecord kind (kind.withChannels record (StreamDraft.map draft).indices)) := by
  let repaired := kind.withChannels record (StreamDraft.map draft).indices
  let after := daemon.withRecord kind repaired
  have sameId : kind.recordId repaired = id := (kind.recordId_withChannels record _).trans holds
  have stored : (after.table kind).get? (kind.recordId repaired) = some repaired :=
    daemon.get?_withRecord kind repaired
  have readAgain : kind.read repaired = .ok draft := StreamKind.read_of_write (write_of_read read)
  have again := submit_unedited context
    ((daemon.refusal_withRecord kind repaired).trans clear) readAgain valid
  -- Written again the repaired record is itself, and it is already stored.
  have settled : kind.withChannels repaired (StreamDraft.map draft).indices = repaired :=
    kind.withChannels_withChannels record _ _
  rw [settled, after.withRecord_of_stored kind repaired stored] at again
  exact {
    submitted := submit_unedited context clear read valid
    repaired := by
      rw [← sameId]
      exact stored
    changed := fun same => scattered ((repaired_eq_self_iff read).mp same)
    elsewhere := by
      rw [← sameId]
      exact agreesElsewhere_withRecord daemon repaired
    refusal := daemon.refusal_withRecord kind repaired
    readAgain := readAgain
    submittedAgain := again }

end Unedited

/-- Of every daemon that a run leaves: submitting a stored stream as it was opened leaves the daemon as it
was if the record holds a run of channels.  If not, only the record's list is repaired, and once. -/
theorem unedited_submit_keeps (settings : DaemonSettings) (history : List DaemonStep)
    (kind : StreamKind) (context : FormContext) (id : UInt8) (record : kind.Record)
    (draft : kind.Draft)
    (clear : ((Daemon.start settings).afterRun history).refusal = none)
    (stored : (((Daemon.start settings).afterRun history).table kind).get? id = some record)
    (read : kind.read record = .ok draft)
    (valid : (StreamDraft.validate draft context).isValid = true) :
    let daemon := (Daemon.start settings).afterRun history
    ((∃ map, ChannelMap.ofIndices (kind.channels record) = .ok map) →
        SubmitLeaves (.start .edit draft context) daemon daemon) ∧
      ((¬ ∃ map, ChannelMap.ofIndices (kind.channels record) = .ok map) →
        ∃ after, SubmitRepairs (.start .edit draft context) id record daemon after) := by
  intro daemon
  have keyed : daemon.Keyed := Daemon.keyed_afterRun settings history
  have holds : kind.recordId record = id := (keyed kind).holds stored
  constructor
  · intro run
    have submitted := submit_unedited context clear read valid
    rw [(repaired_eq_self_iff read).mpr run] at submitted
    rw [← holds] at stored
    rwa [daemon.withRecord_of_stored kind record stored] at submitted
  · intro scattered
    exact ⟨_, submit_repairs context clear holds read valid scattered⟩

/-- A source with a run of channels, and a sink whose channels are scattered. -/
theorem stored_source_kept_and_sink_repaired :
    let context : FormContext := ⟨⟨48000, 48, 1⟩, 1440⟩
    let source : Source :=
      ⟨5, true, "Studio A", "", 48, .l24, "239.1.0.5", 15, 98, 46, true, [8, 9, 10, 11]⟩
    let sourceDraft : SourceDraft :=
      ⟨5, true, "Studio A", "", 48, .l24, "239.1.0.5", 15, 98, 46, true,
        ⟨8, 4, by decide, by decide⟩⟩
    let sink : Sink := ⟨5, "Monitors", "", true, "", "v=0", 576, false, [63, 0, 7]⟩
    let sinkDraft : SinkDraft :=
      ⟨5, "Monitors", "", true, "", "v=0", 576, false, ⟨61, 3, by decide, by decide⟩⟩
    let daemon := (Daemon.start .blank).afterRun [.call (.putSource source), .call (.putSink sink)]
    @SubmitLeaves .source (.start .edit sourceDraft context) daemon daemon ∧
      ∃ after, @SubmitRepairs .sink (.start .edit sinkDraft context) 5 sink daemon after := by
  intro context source sourceDraft sink sinkDraft daemon
  have kept := unedited_submit_keeps .blank [.call (.putSource source), .call (.putSink sink)]
    .source context 5 source sourceDraft rfl rfl rfl (by decide)
  have repaired := unedited_submit_keeps .blank [.call (.putSource source), .call (.putSink sink)]
    .sink context 5 sink sinkDraft rfl rfl rfl (by decide)
  refine ⟨kept.1 ⟨sourceDraft.map, rfl⟩, repaired.2 ?_⟩
  rintro ⟨map, taken⟩
  cases taken

end NetAudio
