import NetAudio.Proofs.Form.Run

/-!
# The lifecycle of an edit form

What holds of a form of either kind after every run, as one invariant over the form and the events
so far.  Besides the form's own fields it speaks of two things that a form does not keep: the update
that was sent last, and the cause of the last refusal.
-/

set_option autoImplicit false

namespace NetAudio

section Events
variable {kind : StreamKind}

/-- How the state moves: by a submit that begins and by an outcome that is taken, and by nothing
else. -/
def FormEvent.MovesState (event : FormEvent kind) : Prop :=
  match event.step, event.answer with
  | .beginSubmit, .begun (.ok _) =>
      event.before.state = .editing ∧ event.after.state = .submitting
  | .finishSubmit (.ok _), .finished (.ok _) =>
      event.before.state = .submitting ∧ event.after.state = .submitted
  | .finishSubmit (.error _), .finished (.ok _) =>
      event.before.state = .submitting ∧ event.after.state = .editing
  | _, _ => event.after.state = event.before.state

def FormEvent.KeepsMessage (event : FormEvent kind) : Prop :=
  (∀ state, event.answer ≠ .finished (.ok state)) →
    event.after.lastError = event.before.lastError

end Events

structure Lifecycle {kind : StreamKind} (opened : EditForm kind.Draft)
    (events : List (FormEvent kind)) (form : EditForm kind.Draft) : Prop where
  sameMode : form.mode = opened.mode
  sameContext : form.context = opened.context
  sameId : opened.mode = .edit → StreamDraft.id form.draft = StreamDraft.id opened.draft
  /-- Past editing, the draft is valid and still gives the update that was sent last. -/
  sent : form.state ≠ .editing → form.validate.isValid = true ∧
    ∃ update, latest FormEvent.sent? events = some update ∧
      StreamDraft.toUpdate form.draft = .ok update
  /-- After a submit that succeeded nothing changes. -/
  terminal : form.state = .submitted → ∀ steps, form.afterRun steps = form
  movesState : ∀ event ∈ events, event.MovesState
  keepsMessage : ∀ event ∈ events, event.KeepsMessage
  /-- The message is that of the last refusal, until a submit succeeds. -/
  message : form.lastError = if form.state = .submitted then none
    else (latest FormEvent.refusal? events).map DaemonError.message

section Moves
variable {kind : StreamKind}

theorem move_of_submitted {form after : EditForm kind.Draft} {step : FormStep kind}
    {answer : FormAnswer} (submitted : form.state = .submitted)
    (move : FormMove form step answer after) : after = form := by
  cases move with
  | kept _ _ failure => rfl
  | edited _ draft editing sameId => rw [submitted] at editing; cases editing
  | begun sent editing valid carries => rw [submitted] at editing; cases editing
  | accepted submitting => rw [submitted] at submitting; cases submitting
  | returned cause submitting => rw [submitted] at submitting; cases submitting

theorem afterRun_of_submitted (form : EditForm kind.Draft) (submitted : form.state = .submitted)
    (steps : List (FormStep kind)) : form.afterRun steps = form := by
  induction steps with
  | nil => rfl
  | cons step rest ih =>
      have stays : (step.perform form).2 = form :=
        move_of_submitted submitted (perform_moves step form)
      rw [EditForm.afterRun, stateAfter, stays]
      exact ih

def FormAnswer.IsIdle (answer : FormAnswer) : Prop :=
  (∀ sent, answer ≠ .begun (.ok sent)) ∧ ∀ state, answer ≠ .finished (.ok state)

theorem FormAnswer.IsFailure.isIdle {answer : FormAnswer} (failure : answer.IsFailure) :
    answer.IsIdle := by
  cases failure <;> simp [FormAnswer.IsIdle]

theorem FormAnswer.edited_isIdle (result : Except ConsoleError Unit) :
    (FormAnswer.edited result).IsIdle := by
  simp [FormAnswer.IsIdle]

theorem sent?_of_isIdle {event : FormEvent kind} (idle : event.answer.IsIdle) :
    event.sent? = none := by
  unfold FormEvent.sent?
  split
  · next sent answered => exact absurd answered (idle.1 sent)
  · rfl

theorem refusal?_of_isIdle {event : FormEvent kind} (idle : event.answer.IsIdle) :
    event.refusal? = none := by
  unfold FormEvent.refusal?
  split
  · next state _ answered => exact absurd answered (idle.2 state)
  · rfl

theorem movesState_of_isIdle {event : FormEvent kind} (idle : event.answer.IsIdle)
    (same : event.after.state = event.before.state) : event.MovesState := by
  unfold FormEvent.MovesState
  split
  · next sent _ answered => exact absurd answered (idle.1 sent)
  · next state _ answered => exact absurd answered (idle.2 state)
  · next state _ answered => exact absurd answered (idle.2 state)
  · exact same

theorem move_movesState {form after : EditForm kind.Draft} {step : FormStep kind}
    {answer : FormAnswer} (move : FormMove form step answer after) :
    FormEvent.MovesState ⟨form, step, answer, after⟩ := by
  cases move with
  | kept _ _ failure => exact movesState_of_isIdle failure.isIdle rfl
  | edited _ draft editing sameId => exact movesState_of_isIdle (FormAnswer.edited_isIdle _) rfl
  | begun sent editing valid carries => exact ⟨editing, rfl⟩
  | accepted submitting => exact ⟨submitting, rfl⟩
  | returned cause submitting => exact ⟨submitting, rfl⟩

theorem move_keepsMessage {form after : EditForm kind.Draft} {step : FormStep kind}
    {answer : FormAnswer} (move : FormMove form step answer after) :
    FormEvent.KeepsMessage ⟨form, step, answer, after⟩ := by
  intro unfinished
  cases move with
  | kept _ _ failure => rfl
  | edited _ draft editing sameId => rfl
  | begun sent editing valid carries => rfl
  | accepted submitting => exact absurd rfl (unfinished .submitted)
  | returned cause submitting => exact absurd rfl (unfinished .editing)

/-- The draft is frozen from the moment its update is sent. -/
theorem move_sent {form after : EditForm kind.Draft} {step : FormStep kind}
    {answer : FormAnswer} {events : List (FormEvent kind)}
    (before : form.state ≠ .editing → form.validate.isValid = true ∧
      ∃ update, latest FormEvent.sent? events = some update ∧
        StreamDraft.toUpdate form.draft = .ok update)
    (move : FormMove form step answer after) :
    after.state ≠ .editing → after.validate.isValid = true ∧
      ∃ update, latest FormEvent.sent? (events ++ [⟨form, step, answer, after⟩]) = some update ∧
        StreamDraft.toUpdate after.draft = .ok update := by
  intro pending
  rw [latest_concat]
  -- Past editing only a begun submit sends, and no other move changes the draft.
  cases move with
  | kept _ _ failure =>
      rw [sent?_of_isIdle failure.isIdle, Option.none_or]
      exact before pending
  | edited _ draft editing sameId => exact absurd editing pending
  | begun sent editing valid carries => exact ⟨valid, sent, rfl, carries⟩
  | accepted submitting =>
      have stillPending : form.state ≠ .editing := by rw [submitting]; decide
      exact before stillPending
  | returned cause submitting => exact absurd rfl pending

theorem move_message {form after : EditForm kind.Draft} {step : FormStep kind}
    {answer : FormAnswer} {events : List (FormEvent kind)}
    (before : form.lastError = if form.state = .submitted then none
      else (latest FormEvent.refusal? events).map DaemonError.message)
    (move : FormMove form step answer after) :
    after.lastError = if after.state = .submitted then none
      else (latest FormEvent.refusal? (events ++ [⟨form, step, answer, after⟩])).map
        DaemonError.message := by
  rw [latest_concat]
  cases move with
  | kept _ _ failure =>
      rw [refusal?_of_isIdle failure.isIdle, Option.none_or]
      exact before
  | edited _ draft editing sameId =>
      rw [refusal?_of_isIdle (FormAnswer.edited_isIdle _), Option.none_or]
      exact before
  | begun sent editing valid carries =>
      rw [editing] at before
      exact before
  | accepted submitting => rfl
  | returned cause submitting => rfl

theorem lifecycle_move {opened form after : EditForm kind.Draft} {step : FormStep kind}
    {answer : FormAnswer} {events : List (FormEvent kind)}
    (before : Lifecycle opened events form) (move : FormMove form step answer after) :
    Lifecycle opened (events ++ [⟨form, step, answer, after⟩]) after := by
  obtain ⟨sameMode, sameContext, sameId⟩ := move_identity move
  exact {
    sameMode := sameMode.trans before.sameMode
    sameContext := sameContext.trans before.sameContext
    sameId := by
      intro edit
      rw [sameId (before.sameMode.trans edit)]
      exact before.sameId edit
    sent := move_sent before.sent move
    terminal := afterRun_of_submitted after
    movesState := by
      rw [List.forall_mem_append]
      exact ⟨before.movesState, by simpa using move_movesState move⟩
    keepsMessage := by
      rw [List.forall_mem_append]
      exact ⟨before.keepsMessage, by simpa using move_keepsMessage move⟩
    message := move_message before.message move }

theorem lifecycle_start (mode : EditMode) (draft : kind.Draft) (context : FormContext) :
    Lifecycle (.start mode draft context) [] (.start mode draft context) where
  sameMode := rfl
  sameContext := rfl
  sameId := fun _ => rfl
  sent := fun pending => absurd rfl pending
  terminal := afterRun_of_submitted _
  movesState := by simp
  keepsMessage := by simp
  message := rfl

end Moves

/-- Every run of a form of either kind keeps to the lifecycle. -/
theorem run_keeps_lifecycle (kind : StreamKind) (mode : EditMode) (draft : kind.Draft)
    (context : FormContext) (steps : List (FormStep kind)) :
    Lifecycle (.start mode draft context)
      ((EditForm.start mode draft context).events steps)
      ((EditForm.start mode draft context).afterRun steps) :=
  run_induction perform_moves (fun _ _ _ _ _ => lifecycle_move) steps [] _
    (lifecycle_start mode draft context)

end NetAudio
