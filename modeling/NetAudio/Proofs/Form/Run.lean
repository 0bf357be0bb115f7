import NetAudio.Daemon.Status
import NetAudio.Proofs.Run
import NetAudio.Proofs.Stream.Records

/-!
# Runs of edit forms

A run applies a list of operations to a form of either kind, each with any arguments and whether or
not the form takes it.  `FormMove` lists everything an operation can do to a form;
`perform_moves` says that there is nothing else, so what a run preserves is proved by the cases of
`FormMove` and one induction over the operations.
-/

set_option autoImplicit false

namespace NetAudio

inductive FormStep : StreamKind → Type where
  | update {kind : StreamKind} (edit : kind.Draft → kind.Draft) : FormStep kind
  | setChannels {kind : StreamKind} (count : Nat) : FormStep kind
  | setStart {kind : StreamKind} (start : Nat) : FormStep kind
  | setCodec (codec : Codec) : FormStep .source
  | setSamples (samples : UInt32) : FormStep .source
  | setUseSdp (useSdp : Bool) : FormStep .sink
  | selectRemote (remote : RemoteSource) : FormStep .sink
  | beginSubmit {kind : StreamKind} : FormStep kind
  | finishSubmit {kind : StreamKind} (outcome : Except DaemonError Unit) : FormStep kind

inductive FormAnswer where
  | edited (result : Except ConsoleError Unit)
  | begun (result : Except ConsoleError StreamUpdate)
  | finished (result : Except FormError FormState)

inductive FormAnswer.IsFailure : FormAnswer → Prop where
  | edited (cause : ConsoleError) : IsFailure (.edited (.error cause))
  | begun (cause : ConsoleError) : IsFailure (.begun (.error cause))
  | finished (cause : FormError) : IsFailure (.finished (.error cause))

def FormAction.edit {ε δ : Type} (action : FormAction ε δ Unit) (embed : ε → ConsoleError)
    (form : EditForm δ) : FormAnswer × EditForm δ :=
  let (result, after) := carryOut action form
  (.edited (result.mapError embed), after)

def FormStep.perform {kind : StreamKind} (step : FormStep kind) (form : EditForm kind.Draft) :
    FormAnswer × EditForm kind.Draft :=
  match step with
  | .update edit => (EditForm.update edit).edit .form form
  | .setChannels count => (EditForm.setChannels count).edit id form
  | .setStart start => (EditForm.setStart start).edit id form
  | .setCodec codec => (EditForm.setCodec codec).edit .form form
  | .setSamples samples => (EditForm.setSamples samples).edit .form form
  | .setUseSdp useSdp => (EditForm.setUseSdp useSdp).edit .form form
  | .selectRemote remote => (EditForm.selectRemote remote.sdp).edit .form form
  | .beginSubmit =>
      let (result, after) := carryOut EditForm.beginSubmit form
      (.begun result, after)
  | .finishSubmit outcome =>
      let (result, after) := carryOut (EditForm.finishSubmit outcome) form
      (.finished result, after)

theorem edit_of_carryOut {ε δ : Type} {action : FormAction ε δ Unit} {form after : EditForm δ}
    {result : Except ε Unit} (run : carryOut action form = (result, after))
    (embed : ε → ConsoleError) :
    action.edit embed form = (.edited (result.mapError embed), after) := by
  rw [FormAction.edit, run]

/-! ## What each operation does -/

section Operations
variable {δ : Type}

theorem carryOut_ensureEditing (form : EditForm δ) :
    carryOut EditForm.ensureEditing form =
      if form.state = .editing then (.ok (), form)
      else (.error (.notEditing form.state), form) := by
  by_cases editing : form.state = .editing
  · simp [EditForm.ensureEditing, editing]
  · simp [EditForm.ensureEditing, editing]

variable [StreamDraft δ]

theorem carryOut_update (edit : δ → δ) (form : EditForm δ) :
    carryOut (EditForm.update edit) form =
      if form.state = .editing then
        if form.mode = .edit ∧
            StreamDraft.id (edit form.draft) ≠ StreamDraft.id form.draft then
          (.error .immutableId, form)
        else
          (.ok (), { form with draft := edit form.draft })
      else
        (.error (.notEditing form.state), form) := by
  by_cases editing : form.state = .editing
  · by_cases moved : form.mode = .edit ∧
        StreamDraft.id (edit form.draft) ≠ StreamDraft.id form.draft
    · simp [EditForm.update, carryOut_ensureEditing, editing, moved]
    · simp [EditForm.update, carryOut_ensureEditing, editing, moved]
  · simp [EditForm.update, carryOut_ensureEditing, editing]

theorem carryOut_update_of_sameId (edit : δ → δ) (form : EditForm δ)
    (editing : form.state = .editing)
    (sameId : StreamDraft.id (edit form.draft) = StreamDraft.id form.draft) :
    carryOut (EditForm.update edit) form = (.ok (), { form with draft := edit form.draft }) := by
  rw [carryOut_update, if_pos editing, if_neg]
  exact fun moved => moved.2 sameId

theorem carryOut_changeMap (change : ChannelMap → Except CalculatorError ChannelMap)
    (form : EditForm δ) :
    carryOut (EditForm.changeMap change) form =
      if form.state = .editing then
        match change (StreamDraft.map form.draft) with
        | .ok changed =>
            (.ok (), { form with draft := StreamDraft.withMap form.draft changed })
        | .error cause => (.error (.calculator cause), form)
      else
        (.error (.form (.notEditing form.state)), form) := by
  by_cases editing : form.state = .editing
  · cases changed : change (StreamDraft.map form.draft) with
    | ok map => simp [EditForm.changeMap, carryOut_ensureEditing, editing, changed]
    | error cause => simp [EditForm.changeMap, carryOut_ensureEditing, editing, changed]
  · simp [EditForm.changeMap, carryOut_ensureEditing, editing]

theorem carryOut_beginSubmit (form : EditForm δ) :
    carryOut EditForm.beginSubmit form =
      if form.state = .editing then
        if form.validate.isValid then
          match StreamDraft.toUpdate form.draft with
          | .ok sent => (.ok sent, { form with state := .submitting })
          | .error cause => (.error (.calculator cause), form)
        else
          (.error (.form (.invalid form.validate.errorCount)), form)
      else
        (.error (.form (.notEditing form.state)), form) := by
  by_cases editing : form.state = .editing
  · by_cases valid : form.validate.isValid
    · cases carries : StreamDraft.toUpdate form.draft with
      | ok sent =>
          simp [EditForm.beginSubmit, carryOut_ensureEditing, editing, valid, carries]
      | error cause =>
          simp [EditForm.beginSubmit, carryOut_ensureEditing, editing, valid, carries]
    · simp [EditForm.beginSubmit, carryOut_ensureEditing, editing, valid]
  · simp [EditForm.beginSubmit, carryOut_ensureEditing, editing]

/-- An announcement without an SDP text is taken like any other and changes nothing. -/
theorem carryOut_selectRemote (sdp : String) (form : EditForm SinkDraft) :
    carryOut (EditForm.selectRemote sdp) form =
      if form.state = .editing then
        (.ok (), { form with
          draft := if sdp = "" then form.draft else { form.draft with sdp } })
      else
        (.error (.notEditing form.state), form) := by
  by_cases blank : sdp = ""
  · simp [EditForm.selectRemote, blank, carryOut_ensureEditing]
  · simp [EditForm.selectRemote, blank, carryOut_update, StreamDraft.id]

omit [StreamDraft δ] in
theorem carryOut_finishSubmit (outcome : Except DaemonError Unit) (form : EditForm δ) :
    carryOut (EditForm.finishSubmit outcome) form =
      if form.state = .submitting then
        match outcome with
        | .ok () => (.ok .submitted, { form with state := .submitted, lastError := none })
        | .error cause =>
            (.ok .editing, { form with state := .editing, lastError := some cause.message })
      else
        (.error .notSubmitting, form) := by
  by_cases submitting : form.state = .submitting
  · cases outcome with
    | ok done => simp [EditForm.finishSubmit, submitting]
    | error cause => simp [EditForm.finishSubmit, submitting]
  · simp [EditForm.finishSubmit, submitting]

end Operations

/-! ## Moves -/

inductive FormMove {kind : StreamKind} (form : EditForm kind.Draft) :
    FormStep kind → FormAnswer → EditForm kind.Draft → Prop where
  /-- It fails, and the form stays as it was. -/
  | kept (step : FormStep kind) (answer : FormAnswer) (failure : answer.IsFailure) :
      FormMove form step answer form
  | edited (step : FormStep kind) (draft : kind.Draft) (editing : form.state = .editing)
      (sameId : form.mode = .edit → StreamDraft.id draft = StreamDraft.id form.draft) :
      FormMove form step (.edited (.ok ())) { form with draft }
  | begun (sent : StreamUpdate) (editing : form.state = .editing)
      (valid : form.validate.isValid = true)
      (carries : StreamDraft.toUpdate form.draft = .ok sent) :
      FormMove form .beginSubmit (.begun (.ok sent)) { form with state := .submitting }
  | accepted (submitting : form.state = .submitting) :
      FormMove form (.finishSubmit (.ok ())) (.finished (.ok .submitted))
        { form with state := .submitted, lastError := none }
  | returned (cause : DaemonError) (submitting : form.state = .submitting) :
      FormMove form (.finishSubmit (.error cause)) (.finished (.ok .editing))
        { form with state := .editing, lastError := some cause.message }

theorem id_withMap (kind : StreamKind) (draft : kind.Draft) (map : ChannelMap) :
    StreamDraft.id (StreamDraft.withMap draft map) = StreamDraft.id draft := by
  cases kind <;> rfl

section Edits
variable {kind : StreamKind} {ε : Type}

/-- An edit either fails and keeps the form, or is taken while editing and changes the draft only. -/
def FormAction.Edits (action : FormAction ε kind.Draft Unit) (form : EditForm kind.Draft) :
    Prop :=
  (∃ cause, carryOut action form = (.error cause, form)) ∨
    ∃ draft : kind.Draft, form.state = .editing ∧
      (form.mode = .edit → StreamDraft.id draft = StreamDraft.id form.draft) ∧
      carryOut action form = (.ok (), { form with draft })

theorem update_edits (edit : kind.Draft → kind.Draft) (form : EditForm kind.Draft) :
    (EditForm.update edit).Edits form := by
  rw [FormAction.Edits, carryOut_update]
  split
  · next editing =>
      split
      · exact .inl ⟨_, rfl⟩
      · next stays =>
          refine .inr ⟨edit form.draft, editing, ?_, rfl⟩
          intro mode
          exact Decidable.not_not.mp fun moved => stays ⟨mode, moved⟩
  · exact .inl ⟨_, rfl⟩

theorem changeMap_edits (change : ChannelMap → Except CalculatorError ChannelMap)
    (form : EditForm kind.Draft) : (EditForm.changeMap change).Edits form := by
  rw [FormAction.Edits, carryOut_changeMap]
  split
  · next editing =>
      split
      · next changed _ =>
          exact .inr ⟨_, editing, fun _ => id_withMap kind form.draft changed, rfl⟩
      · exact .inl ⟨_, rfl⟩
  · exact .inl ⟨_, rfl⟩

theorem ensureEditing_edits (form : EditForm kind.Draft) :
    FormAction.Edits EditForm.ensureEditing form := by
  rw [FormAction.Edits, carryOut_ensureEditing]
  split
  · next editing => exact .inr ⟨form.draft, editing, fun _ => rfl, rfl⟩
  · exact .inl ⟨_, rfl⟩

theorem selectRemote_edits (sdp : String) (form : EditForm StreamKind.sink.Draft) :
    FormAction.Edits (EditForm.selectRemote sdp) form := by
  unfold EditForm.selectRemote
  split
  · exact ensureEditing_edits form
  · exact @update_edits .sink _ form

theorem edit_moves (action : FormAction ε kind.Draft Unit) (embed : ε → ConsoleError)
    (form : EditForm kind.Draft) (step : FormStep kind) (edits : action.Edits form) :
    FormMove form step (action.edit embed form).1 (action.edit embed form).2 := by
  rcases edits with ⟨cause, run⟩ | ⟨draft, editing, sameId, run⟩
  · simp only [FormAction.edit, run]
    exact .kept step _ (.edited _)
  · simp only [FormAction.edit, run]
    exact .edited step draft editing sameId

end Edits

section Runs
variable {kind : StreamKind}

/-- An operation does nothing to a form but what `FormMove` lists. -/
theorem perform_moves (step : FormStep kind) (form : EditForm kind.Draft) :
    FormMove form step (step.perform form).1 (step.perform form).2 := by
  cases step with
  | update edit => exact edit_moves _ _ form _ (update_edits edit form)
  | setChannels count => exact edit_moves _ _ form _ (changeMap_edits _ form)
  | setStart start => exact edit_moves _ _ form _ (changeMap_edits _ form)
  | setCodec codec => exact edit_moves _ _ form _ (update_edits _ form)
  | setSamples samples => exact edit_moves _ _ form _ (update_edits _ form)
  | setUseSdp useSdp => exact edit_moves _ _ form _ (update_edits _ form)
  | selectRemote remote => exact edit_moves _ _ form _ (selectRemote_edits remote.sdp form)
  | beginSubmit =>
      simp only [FormStep.perform, carryOut_beginSubmit]
      split
      · next editing =>
          split
          · next valid =>
              cases carries : StreamDraft.toUpdate form.draft with
              | ok sent => exact .begun sent editing valid carries
              | error cause => exact .kept _ _ (.begun _)
          · exact .kept _ _ (.begun _)
      · exact .kept _ _ (.begun _)
  | finishSubmit outcome =>
      simp only [FormStep.perform, carryOut_finishSubmit]
      split
      · next submitting =>
          cases outcome with
          | ok done => exact .accepted submitting
          | error cause => exact .returned cause submitting
      · exact .kept _ _ (.finished _)

theorem move_identity {form after : EditForm kind.Draft} {step : FormStep kind}
    {answer : FormAnswer} (move : FormMove form step answer after) :
    after.mode = form.mode ∧ after.context = form.context ∧
      (form.mode = .edit → StreamDraft.id after.draft = StreamDraft.id form.draft) := by
  cases move with
  | edited _ draft editing sameId => exact ⟨rfl, rfl, sameId⟩
  | _ => exact ⟨rfl, rfl, fun _ => rfl⟩

/-! ## Runs -/

abbrev FormEvent (kind : StreamKind) :=
  Event (FormStep kind) FormAnswer (EditForm kind.Draft)

def FormEvent.sent? (event : FormEvent kind) : Option StreamUpdate :=
  match event.answer with
  | .begun (.ok sent) => some sent
  | _ => none

def FormEvent.refusal? (event : FormEvent kind) : Option DaemonError :=
  match event.step, event.answer with
  | .finishSubmit (.error cause), .finished (.ok _) => some cause
  | _, _ => none

def EditForm.events (form : EditForm kind.Draft) (steps : List (FormStep kind)) :
    List (FormEvent kind) :=
  eventsOf FormStep.perform form steps

def EditForm.afterRun (form : EditForm kind.Draft) (steps : List (FormStep kind)) :
    EditForm kind.Draft :=
  stateAfter FormStep.perform form steps

/-- Every event of a run is a move, made in the context that the form was opened with. -/
theorem events_move (form : EditForm kind.Draft) (steps : List (FormStep kind)) :
    ∀ event ∈ form.events steps,
      FormMove event.before event.step event.answer event.after ∧
        event.before.context = form.context := by
  induction steps generalizing form with
  | nil => simp [EditForm.events, eventsOf]
  | cons step rest ih =>
      have move := perform_moves step form
      intro event member
      rcases List.mem_cons.mp member with rfl | member
      · exact ⟨move, rfl⟩
      · obtain ⟨later, sameContext⟩ := ih _ event member
        exact ⟨later, sameContext.trans (move_identity move).2.1⟩

end Runs

end NetAudio
