import NetAudio.Proofs.Daemon.Streams
import NetAudio.Proofs.Form.Submission

/-!
# Submits to a daemon in memory

A submit that the daemon takes stores exactly what the draft says and nothing else, and a refetch
reads the draft back.  A submit that the daemon refuses costs nothing: the form keeps its draft and
learns the cause, and the daemon forgets the refusal.
-/

set_option autoImplicit false

namespace NetAudio

/-- What a draft says is in a daemon: the record that it becomes stands under its id, no other of
the listing has that id, and it is read back as the draft. -/
structure Daemon.Holds (daemon : Daemon) (kind : StreamKind) (draft : kind.Draft)
    (record : kind.Record) : Prop where
  becomes : StreamDraft.toUpdate draft = .ok (kind.update record)
  stored : (daemon.table kind).get? (StreamDraft.id draft) = some record
  listed : ∃ records,
    carryOut (Daemon.answer (.listing kind)) daemon = (.ok (.listed kind records), daemon) ∧
      records.filter (fun other => kind.recordId other == StreamDraft.id draft) = [record]
  readBack : kind.read record = .ok draft

structure Daemon.AgreesElsewhere (before after : Daemon) (kind : StreamKind) (id : UInt8) :
    Prop where
  streams : ∀ other key, (other, key) ≠ (kind, id) →
    (after.table other).get? key = (before.table other).get? key
  sinkStatus : after.sinkStatus = before.sinkStatus
  settings : after.settings = before.settings
  ptpStatus : after.ptpStatus = before.ptpStatus
  remoteSources : after.remoteSources = before.remoteSources

section Submits
variable {kind : StreamKind}

def SubmitSucceeds (form : EditForm kind.Draft) (daemon : Daemon) : Prop :=
  ∃ after record,
    (form.submit Daemon.send).run daemon =
      ((.ok .submitted, { form with state := .submitted, lastError := none }), after) ∧
    after.Holds kind form.draft record ∧
    daemon.AgreesElsewhere after kind (StreamDraft.id form.draft) ∧ after.refusal = none

theorem submit_run {form waiting finished : EditForm kind.Draft} {daemon after : Daemon}
    {sent : StreamUpdate} {outcome : Except DaemonError Unit} {state : FormState}
    (begun : carryOut EditForm.beginSubmit form = (.ok sent, waiting))
    (answered : (Daemon.send sent).run daemon = (outcome, after))
    (taken : carryOut (EditForm.finishSubmit outcome) waiting = (.ok state, finished)) :
    (form.submit Daemon.send).run daemon = ((.ok state, finished), after) := by
  rw [carryOut_eq_ok] at begun taken
  simp only [EditForm.submit, begun, StateT.run_bind, answered]
  simp only [bind, taken]
  rfl

theorem agreesElsewhere_withRecord (daemon : Daemon) (record : kind.Record) :
    daemon.AgreesElsewhere (daemon.withRecord kind record) kind (kind.recordId record) where
  streams := daemon.get?_withRecord_of_ne kind record
  sinkStatus := by cases kind <;> rfl
  settings := by cases kind <;> rfl
  ptpStatus := by cases kind <;> rfl
  remoteSources := by cases kind <;> rfl

theorem holds_withRecord (daemon : Daemon) (keyed : daemon.Keyed) (draft : kind.Draft)
    (record : kind.Record) (becomes : StreamDraft.toUpdate draft = .ok (kind.update record))
    (sameId : kind.recordId record = StreamDraft.id draft)
    (readBack : kind.read record = .ok draft) :
    (daemon.withRecord kind record).Holds kind draft record := by
  have stored : ((daemon.withRecord kind record).table kind).get? (StreamDraft.id draft) =
      some record := by
    rw [← sameId]
    exact daemon.get?_withRecord kind record
  refine {
    becomes := becomes
    stored := stored
    listed := ⟨_, Daemon.carryOut_listing _ kind, ?_⟩
    readBack := readBack }
  rw [(keyed.withRecord kind record kind).filter_toList, stored]
  rfl

/-- A submit that the daemon takes puts the record that the draft becomes. -/
theorem submit_puts (form : EditForm kind.Draft) (daemon : Daemon)
    (enabled : form.canSubmit = true) (clear : daemon.refusal = none) (record : kind.Record)
    (becomes : StreamDraft.toUpdate form.draft = .ok (kind.update record)) :
    (form.submit Daemon.send).run daemon =
      ((.ok .submitted, { form with state := .submitted, lastError := none }),
        daemon.withRecord kind record) := by
  obtain ⟨sent, carries, begun⟩ := beginSubmit_of_canSubmit form enabled
  rw [becomes] at carries
  cases carries
  apply submit_run begun (daemon.send_of_clear kind record clear)
  rw [carryOut_finishSubmit, if_pos rfl]

theorem submit_of_refused_begin {form kept : EditForm kind.Draft} {cause : ConsoleError}
    (refused : carryOut EditForm.beginSubmit form = (.error cause, kept)) (daemon : Daemon) :
    (form.submit Daemon.send).run daemon = ((.error cause, kept), daemon) := by
  rw [carryOut_eq_error] at refused
  simp only [EditForm.submit, refused]
  rfl

theorem submit_of_clear (form : EditForm kind.Draft) (daemon : Daemon)
    (enabled : form.canSubmit = true) (keyed : daemon.Keyed) (clear : daemon.refusal = none) :
    SubmitSucceeds form daemon := by
  -- A valid draft always becomes a record, so the submit gets as far as the daemon.
  obtain ⟨sent, carries, -⟩ := beginSubmit_of_canSubmit form enabled
  obtain ⟨record, rfl, sameId, readBack⟩ := toUpdate_reads_back kind form.draft sent carries
  refine ⟨daemon.withRecord kind record, record, ?_, ?_, ?_, ?_⟩
  · exact submit_puts form daemon enabled clear record carries
  · exact holds_withRecord daemon keyed form.draft record carries sameId readBack
  · rw [← sameId]
    exact agreesElsewhere_withRecord daemon record
  · rw [daemon.refusal_withRecord, clear]

theorem submit_of_refusal (form : EditForm kind.Draft) (daemon : Daemon)
    (enabled : form.canSubmit = true) (status : UInt16) (body : String)
    (armed : daemon.refusal = some (status, body)) :
    (form.submit Daemon.send).run daemon =
      ((.ok .editing, { form with
          state := .editing
          lastError := some (DaemonError.rejected status body).message }),
        { daemon with refusal := none }) := by
  obtain ⟨sent, -, begun⟩ := beginSubmit_of_canSubmit form enabled
  apply submit_run begun (daemon.send_of_refusal sent armed)
  rw [carryOut_finishSubmit, if_pos rfl]

/-- A submit ends in submitted only if the daemon took the record that the draft becomes. -/
theorem record_of_submitted {form finished : EditForm kind.Draft} {daemon after : Daemon}
    (submitted : (form.submit Daemon.send).run daemon = ((.ok .submitted, finished), after)) :
    daemon.refusal = none ∧ ∃ record,
      StreamDraft.toUpdate form.draft = .ok (kind.update record) ∧
        kind.recordId record = StreamDraft.id form.draft ∧
        after = daemon.withRecord kind record := by
  cases enabled : form.canSubmit with
  | false =>
      obtain ⟨cause, refused⟩ := beginSubmit_of_not_canSubmit form enabled
      rw [submit_of_refused_begin refused] at submitted
      cases submitted
  | true =>
      cases pending : daemon.refusal with
      | some refusal =>
          obtain ⟨status, body⟩ := refusal
          rw [submit_of_refusal form daemon enabled status body pending] at submitted
          cases submitted
      | none =>
          obtain ⟨sent, carries, -⟩ := beginSubmit_of_canSubmit form enabled
          obtain ⟨record, rfl, sameId, -⟩ := toUpdate_reads_back kind form.draft sent carries
          rw [submit_puts form daemon enabled pending record carries] at submitted
          cases submitted
          exact ⟨rfl, record, carries, sameId, rfl⟩

end Submits

/-- Of every daemon that a run leaves and every form that is edited and valid: a submit stores the
draft, and a refetch reads it back.  If a refusal is pending, the submit ends in editing with the
daemon's words and spends the refusal, and a second one does what the first would have done. -/
theorem submit_stores_draft (settings : DaemonSettings) (history : List DaemonStep)
    (kind : StreamKind) (form : EditForm kind.Draft) (editing : form.state = .editing)
    (valid : form.validate.isValid = true) :
    let daemon := (Daemon.start settings).afterRun history
    (daemon.refusal = none → SubmitSucceeds form daemon) ∧
    ∀ status body, daemon.refusal = some (status, body) →
      let told := "Daemon rejected request: HTTP " ++ toString status.toNat ++ ": " ++ body
      let returned := { form with lastError := some told }
      (form.submit Daemon.send).run daemon =
          ((.ok .editing, returned), { daemon with refusal := none }) ∧
        SubmitSucceeds returned { daemon with refusal := none } := by
  intro daemon
  have keyed : daemon.Keyed := Daemon.keyed_afterRun settings history
  have enabled : form.canSubmit = true := (canSubmit_iff form).mpr ⟨editing, valid⟩
  constructor
  · intro clear
    exact submit_of_clear form daemon enabled keyed clear
  · intro status body armed told returned
    constructor
    · rw [submit_of_refusal form daemon enabled status body armed, ← editing]
      rfl
    · exact submit_of_clear returned { daemon with refusal := none } enabled keyed rfl

/-- A source that replaces a stored one, and a sink that is refused once. -/
theorem source_replaced_and_sink_resubmitted :
    let context : FormContext := ⟨⟨48000, 48, 1⟩, 1440⟩
    let before : List DaemonStep := [
      .call (.putSink (SinkDraft.withDefaults 2 "").toSink),
      .call (.putSource ⟨2, true, "Old", "", 48, .l16, "", 15, 98, 34, false, [9, 4, 70]⟩)]
    let source : EditForm StreamKind.source.Draft :=
      .start .edit (SourceDraft.withDefaults 2) context
    let sink : EditForm StreamKind.sink.Draft :=
      .start .add { SinkDraft.withDefaults 2 "" with useSdp := true, sdp := "v=0" } context
    let told := some "Daemon rejected request: HTTP 500: sink busy"
    let refusing := (Daemon.start .blank).afterRun (before ++ [.rejectNext 500 "sink busy"])
    SubmitSucceeds source ((Daemon.start .blank).afterRun before) ∧
      (sink.submit Daemon.send).run refusing =
        ((.ok .editing, { sink with lastError := told }), { refusing with refusal := none }) ∧
      SubmitSucceeds { sink with lastError := told } { refusing with refusal := none } := by
  intro context before source sink told refusing
  have accepted := submit_stores_draft .blank before .source source rfl (by decide)
  have refused := submit_stores_draft .blank (before ++ [.rejectNext 500 "sink busy"])
    .sink sink rfl (by decide)
  exact ⟨accepted.1 rfl, refused.2 500 "sink busy" rfl⟩

end NetAudio
