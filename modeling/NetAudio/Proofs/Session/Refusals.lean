import NetAudio.Proofs.Form.Selectors
import NetAudio.Proofs.Session.Submit

/-!
# Operations that a form refuses

A form refuses an operation for one of six causes (`EditForm.Refuses`), and a refused operation leaves
no trace: the form stays as it was, and a run without its refused operations goes on in the same way.
A submit fails exactly where it cannot begin, and then the daemon hears nothing of it.
-/

set_option autoImplicit false

namespace NetAudio

def FormAnswer.cause? : FormAnswer → Option ConsoleError
  | .edited (.error cause) | .begun (.error cause) => some cause
  | .finished (.error cause) => some (.form cause)
  | _ => none

section Forms
variable {kind : StreamKind}

inductive EditForm.Refuses (form : EditForm kind.Draft) : FormStep kind → ConsoleError → Prop where
  | notEditing (step : FormStep kind) (other : ∀ outcome, step ≠ .finishSubmit outcome)
      (busy : form.state ≠ .editing) : Refuses form step (.form (.notEditing form.state))
  | notSubmitting (outcome : Except DaemonError Unit) (idle : form.state ≠ .submitting) :
      Refuses form (.finishSubmit outcome) (.form .notSubmitting)
  | immutableId (edit : kind.Draft → kind.Draft) (editing : form.state = .editing)
      (mode : form.mode = .edit)
      (moved : StreamDraft.id (edit form.draft) ≠ StreamDraft.id form.draft) :
      Refuses form (.update edit) (.form .immutableId)
  | channelCount (count : Nat) (editing : form.state = .editing)
      (beyond : ¬ (1 ≤ count ∧ count ≤ 64)) :
      Refuses form (.setChannels count) (.calculator (.invalidChannelCount count))
  | mapOverflow (start : Nat) (editing : form.state = .editing)
      (beyond : 64 < start + (StreamDraft.map form.draft).count) :
      Refuses form (.setStart start)
        (.calculator (.mapOverflow start (StreamDraft.map form.draft).count 64))
  | invalid (editing : form.state = .editing) (flagged : form.validate.isValid = false) :
      Refuses form .beginSubmit (.form (.invalid form.validate.errorCount))

/-! ## The cause of each refusal -/

section Edits
variable {ε δ : Type} {action : FormAction ε δ Unit} {form after : EditForm δ}

theorem cause?_of_refused {why : ε} (refused : carryOut action form = (.error why, after))
    (embed : ε → ConsoleError) : (action.edit embed form).1.cause? = some (embed why) := by
  rw [edit_of_carryOut refused]
  rfl

theorem cause?_of_taken (taken : carryOut action form = (.ok (), after))
    (embed : ε → ConsoleError) : (action.edit embed form).1.cause? = none := by
  rw [edit_of_carryOut taken]
  rfl

end Edits

variable {form : EditForm kind.Draft} {step : FormStep kind} {cause : ConsoleError}

theorem cause?_of_busy (busy : form.state ≠ .editing)
    (other : ∀ outcome, step ≠ .finishSubmit outcome) :
    (step.perform form).1.cause? = some (.form (.notEditing form.state)) := by
  have update (edit : kind.Draft → kind.Draft) :
      carryOut (EditForm.update edit) form = (.error (.notEditing form.state), form) := by
    rw [carryOut_update, if_neg busy]
  have changeMap (change : ChannelMap → Except CalculatorError ChannelMap) :
      carryOut (EditForm.changeMap change) form =
        (.error (.form (.notEditing form.state)), form) := by
    rw [carryOut_changeMap, if_neg busy]
  cases step with
  | update edit => exact cause?_of_refused (update edit) .form
  | setChannels count => exact cause?_of_refused (changeMap _) id
  | setStart start => exact cause?_of_refused (changeMap _) id
  | setCodec codec => exact cause?_of_refused (update _) .form
  | setSamples samples => exact cause?_of_refused (update _) .form
  | setUseSdp useSdp => exact cause?_of_refused (update _) .form
  | selectRemote remote =>
      have refused := (carryOut_selectRemote remote.sdp form).trans (if_neg busy)
      exact cause?_of_refused refused .form
  | beginSubmit =>
      rw [FormStep.perform, beginSubmit_of_not_editing form busy]
      rfl
  | finishSubmit outcome => exact absurd rfl (other outcome)

theorem cause?_of_refuses (refuses : form.Refuses step cause) :
    (step.perform form).1.cause? = some cause := by
  cases refuses with
  | notEditing _ other busy => exact cause?_of_busy busy other
  | notSubmitting outcome idle =>
      rw [FormStep.perform, carryOut_finishSubmit, if_neg idle]
      rfl
  | immutableId edit editing mode moved =>
      have refused := carryOut_update edit form
      rw [if_pos editing, if_pos ⟨mode, moved⟩] at refused
      exact cause?_of_refused refused .form
  | channelCount count editing beyond =>
      have refused := carryOut_changeMap (·.resized count) form
      rw [if_pos editing, ChannelMap.resized_of_uncountable _ beyond] at refused
      exact cause?_of_refused refused id
  | mapOverflow start editing beyond =>
      have bank : bankSize = 64 := rfl
      have counted := (StreamDraft.map form.draft).countable
      have outside : ¬ start ≤ bankSize - (StreamDraft.map form.draft).count := by
        have most := counted.2
        omega
      have refused := carryOut_changeMap (·.withStart start) form
      rw [if_pos editing, ChannelMap.withStart,
        ChannelMap.contiguous_of_overflow _ _ counted outside] at refused
      exact cause?_of_refused refused id
  | invalid editing flagged =>
      rw [FormStep.perform, beginSubmit_of_invalid form editing flagged]
      rfl

/-- A form that waits takes every outcome. -/
theorem finishSubmit_of_submitting (submitting : form.state = .submitting)
    (outcome : Except DaemonError Unit) :
    ∃ state finished, carryOut (EditForm.finishSubmit outcome) form = (.ok state, finished) := by
  rw [carryOut_finishSubmit, if_pos submitting]
  cases outcome with
  | ok done => exact ⟨_, _, rfl⟩
  | error cause => exact ⟨_, _, rfl⟩

/-- A form that is edited takes every edit of a single field; what it may refuse is an edit of the
id or of the map, and a submit. -/
theorem refused_or_taken_of_editing (editing : form.state = .editing) (step : FormStep kind) :
    (∃ cause, form.Refuses step cause) ∨ (step.perform form).1.cause? = none := by
  cases step with
  | update edit =>
      by_cases moved : form.mode = .edit ∧
          StreamDraft.id (edit form.draft) ≠ StreamDraft.id form.draft
      · exact .inl ⟨_, .immutableId edit editing moved.1 moved.2⟩
      · have run := carryOut_update edit form
        rw [if_pos editing, if_neg moved] at run
        exact .inr (cause?_of_taken run .form)
  | setChannels count =>
      by_cases counted : 1 ≤ count ∧ count ≤ 64
      · obtain ⟨map, -, run⟩ := setChannels_of_le form editing count counted.1 counted.2
        exact .inr (cause?_of_taken run id)
      · exact .inl ⟨_, .channelCount count editing counted⟩
  | setStart start =>
      rcases setStart_cases form editing start with ⟨-, after, run, -⟩ | ⟨missing, -⟩
      · exact .inr (cause?_of_taken run id)
      · have beyond : ¬ start ≤ bankSize - (StreamDraft.map form.draft).count :=
          mt ((StreamDraft.map form.draft).mem_startOffsets start).mpr missing
        have bank : bankSize = 64 := rfl
        exact .inl ⟨_, .mapOverflow start editing (by omega)⟩
  | setCodec codec =>
      exact .inr (cause?_of_taken (carryOut_update_of_sameId _ form editing rfl) .form)
  | setSamples samples =>
      exact .inr (cause?_of_taken (carryOut_update_of_sameId _ form editing rfl) .form)
  | setUseSdp useSdp =>
      exact .inr (cause?_of_taken (carryOut_update_of_sameId _ form editing rfl) .form)
  | selectRemote remote =>
      have run := (carryOut_selectRemote remote.sdp form).trans (if_pos editing)
      exact .inr (cause?_of_taken run .form)
  | beginSubmit =>
      cases checked : form.validate.isValid with
      | true =>
          obtain ⟨sent, -, begun⟩ :=
            beginSubmit_of_canSubmit form ((canSubmit_iff form).mpr ⟨editing, checked⟩)
          refine .inr ?_
          rw [FormStep.perform, begun]
          rfl
      | false => exact .inl ⟨_, .invalid editing checked⟩
  | finishSubmit outcome =>
      have idle : form.state ≠ .submitting := by
        rw [editing]
        decide
      exact .inl ⟨_, .notSubmitting outcome idle⟩

theorem refused_or_taken (step : FormStep kind) :
    (∃ cause, form.Refuses step cause) ∨ (step.perform form).1.cause? = none := by
  by_cases editing : form.state = .editing
  · exact refused_or_taken_of_editing editing step
  · by_cases finishes : ∃ outcome, step = .finishSubmit outcome
    · obtain ⟨outcome, rfl⟩ := finishes
      by_cases submitting : form.state = .submitting
      · obtain ⟨state, finished, run⟩ := finishSubmit_of_submitting submitting outcome
        refine .inr ?_
        rw [FormStep.perform, run]
        rfl
      · exact .inl ⟨_, .notSubmitting outcome submitting⟩
    · exact .inl ⟨_, .notEditing step (fun outcome same => finishes ⟨outcome, same⟩) editing⟩

/-- A form refuses an operation for the one cause that holds, and takes it where none does. -/
theorem cause?_eq_some_iff :
    (step.perform form).1.cause? = some cause ↔ form.Refuses step cause := by
  refine ⟨?_, cause?_of_refuses⟩
  intro answered
  rcases @refused_or_taken _ form step with ⟨actual, refuses⟩ | taken
  · rw [cause?_of_refuses refuses] at answered
    cases answered
    exact refuses
  · rw [taken] at answered
    cases answered

/-! ## What a refusal leaves -/

theorem move_of_refused {after : EditForm kind.Draft} {answer : FormAnswer}
    (refused : answer.cause? = some cause) (move : FormMove form step answer after) :
    after = form := by
  cases move with
  | kept _ _ failure => rfl
  | edited _ draft editing sameId => cases refused
  | begun sent editing valid carries => cases refused
  | accepted submitting => cases refused
  | returned why submitting => cases refused

theorem perform_of_refused (refused : (step.perform form).1.cause? = some cause) :
    (step.perform form).2 = form :=
  move_of_refused refused (perform_moves step form)

def FormEvent.isTaken (event : FormEvent kind) : Bool := event.answer.cause?.isNone

def EditForm.taken (form : EditForm kind.Draft) (steps : List (FormStep kind)) :
    List (FormStep kind) :=
  ((form.events steps).filter FormEvent.isTaken).map (·.step)

/-- A run without its refused steps is the same run. -/
theorem run_taken (form : EditForm kind.Draft) (steps : List (FormStep kind)) :
    form.events (form.taken steps) = (form.events steps).filter FormEvent.isTaken ∧
      form.afterRun (form.taken steps) = form.afterRun steps := by
  -- A refused step leaves the form as it was, so the rest of the run begins where it began.
  induction steps generalizing form with
  | nil => exact ⟨rfl, rfl⟩
  | cons step rest ih =>
      obtain ⟨sameEvents, sameForm⟩ := ih (step.perform form).2
      have events : form.events (step :: rest) =
          eventOf FormStep.perform step form :: (step.perform form).2.events rest := rfl
      have after : form.afterRun (step :: rest) = (step.perform form).2.afterRun rest := rfl
      cases answered : (step.perform form).1.cause? with
      | some cause =>
          have left : FormEvent.isTaken (eventOf FormStep.perform step form) ≠ true := by
            simp [FormEvent.isTaken, eventOf, answered]
          have stays := perform_of_refused answered
          rw [stays] at events after sameEvents sameForm
          have same : form.taken (step :: rest) = form.taken rest := by
            rw [EditForm.taken, events, List.filter_cons_of_neg left]
            rfl
          rw [same, events, List.filter_cons_of_neg left, after]
          exact ⟨sameEvents, sameForm⟩
      | none =>
          have kept : FormEvent.isTaken (eventOf FormStep.perform step form) = true := by
            simp [FormEvent.isTaken, eventOf, answered]
          have same : form.taken (step :: rest) = step :: (step.perform form).2.taken rest := by
            rw [EditForm.taken, events, List.filter_cons_of_pos kept]
            rfl
          rw [same, events, List.filter_cons_of_pos kept, ← sameEvents, after, ← sameForm]
          exact ⟨rfl, rfl⟩

/-! ## Submits that fail -/

theorem state_of_begun {sent : StreamUpdate} {waiting : EditForm kind.Draft}
    (begun : carryOut EditForm.beginSubmit form = (.ok sent, waiting)) :
    waiting.state = .submitting := by
  have move := perform_moves .beginSubmit form
  rw [FormStep.perform, begun] at move
  cases move with
  | kept _ _ failure => cases failure
  | begun _ editing valid carries => rfl

/-- A submit that has begun comes to an end: the daemon answers, and the form takes the answer. -/
theorem submit_of_begun {sent : StreamUpdate} {waiting : EditForm kind.Draft}
    (begun : carryOut EditForm.beginSubmit form = (.ok sent, waiting)) (daemon : Daemon) :
    ∃ state finished after, (form.submit Daemon.send).run daemon =
      ((.ok state, finished), after) := by
  rcases answered : (Daemon.send sent).run daemon with ⟨outcome, after⟩
  obtain ⟨state, finished, taken⟩ := finishSubmit_of_submitting (state_of_begun begun) outcome
  exact ⟨state, finished, after, submit_run begun answered taken⟩

theorem beginSubmit_refused_iff (kept : EditForm kind.Draft) :
    carryOut EditForm.beginSubmit form = (.error cause, kept) ↔
      form.Refuses .beginSubmit cause ∧ kept = form := by
  constructor
  · intro refused
    have answered : (FormStep.perform .beginSubmit form).1.cause? = some cause := by
      rw [FormStep.perform, refused]
      rfl
    have stays := perform_of_refused answered
    rw [FormStep.perform, refused] at stays
    exact ⟨cause?_eq_some_iff.mp answered, stays⟩
  · rintro ⟨refuses, rfl⟩
    have answered := cause?_of_refuses refuses
    have stays := perform_of_refused answered
    rw [FormStep.perform] at answered stays
    rcases run : carryOut EditForm.beginSubmit kept with ⟨why | sent, left⟩
    · rw [run] at answered stays
      cases answered
      rw [show left = kept from stays]
    · rw [run] at answered
      cases answered

/-- A submit fails exactly where it cannot begin, for the same cause; then the form and the daemon
stay as they were. -/
theorem submit_fails_iff (daemon after : Daemon) (kept : EditForm kind.Draft) :
    (form.submit Daemon.send).run daemon = ((.error cause, kept), after) ↔
      form.Refuses .beginSubmit cause ∧ kept = form ∧ after = daemon := by
  constructor
  · intro failed
    rcases run : carryOut EditForm.beginSubmit form with ⟨why | sent, left⟩
    · rw [submit_of_refused_begin run] at failed
      cases failed
      obtain ⟨refuses, stays⟩ := (beginSubmit_refused_iff kept).mp run
      exact ⟨refuses, stays, rfl⟩
    · obtain ⟨state, finished, later, succeeds⟩ := submit_of_begun run daemon
      rw [succeeds] at failed
      cases failed
  · rintro ⟨refuses, rfl, rfl⟩
    exact submit_of_refused_begin ((beginSubmit_refused_iff kept).mpr ⟨refuses, rfl⟩) after

end Forms

structure EditForm.RefusesCleanly {kind : StreamKind} (form : EditForm kind.Draft) : Prop where
  causes : ∀ (step : FormStep kind) cause,
    (step.perform form).1.cause? = some cause ↔ form.Refuses step cause
  kept : ∀ (step : FormStep kind) cause,
    (step.perform form).1.cause? = some cause → (step.perform form).2 = form
  /-- Refused operations may as well not have been tried. -/
  traceless : ∀ steps, form.events (form.taken steps) =
      (form.events steps).filter FormEvent.isTaken ∧
    form.afterRun (form.taken steps) = form.afterRun steps

structure EditForm.SubmitFailsCleanly {kind : StreamKind} (form : EditForm kind.Draft)
    (daemon : Daemon) : Prop where
  causes : ∀ cause kept after,
    (form.submit Daemon.send).run daemon = ((.error cause, kept), after) ↔
      carryOut EditForm.beginSubmit form = (.error cause, kept) ∧ after = daemon
  kept : ∀ cause kept after,
    (form.submit Daemon.send).run daemon = ((.error cause, kept), after) → kept = form
  /-- Once a submit has begun, the form takes whatever the daemon answers. -/
  finishes : ∀ sent waiting, carryOut EditForm.beginSubmit form = (.ok sent, waiting) →
    ∀ outcome, ∃ state finished,
      carryOut (EditForm.finishSubmit outcome) waiting = (.ok state, finished)
  /-- It never fails for want of a submit that waits. -/
  waiting : ((form.submit Daemon.send).run daemon).1.1 ≠ .error (.form .notSubmitting)

/-- A refused operation changes nothing, and neither does a submit that fails: it fails where it cannot
begin, and the daemon hears nothing of it. -/
theorem refused_operations_change_nothing (kind : StreamKind) (form : EditForm kind.Draft) :
    form.RefusesCleanly ∧ ∀ daemon, form.SubmitFailsCleanly daemon := by
  constructor
  · exact {
      causes := fun _ _ => cause?_eq_some_iff
      kept := fun _ _ => perform_of_refused
      traceless := run_taken form }
  · intro daemon
    refine { causes := ?_, kept := ?_, finishes := ?_, waiting := ?_ }
    · intro cause kept after
      rw [submit_fails_iff, beginSubmit_refused_iff, and_assoc]
    · intro cause kept after failed
      exact ((submit_fails_iff daemon after kept).mp failed).2.1
    · intro sent waiting begun
      exact finishSubmit_of_submitting (state_of_begun begun)
    · intro idle
      rcases run : (form.submit Daemon.send).run daemon with ⟨⟨result, kept⟩, after⟩
      rw [run] at idle
      subst idle
      have refuses := ((submit_fails_iff daemon after kept).mp run).1
      cases refuses

end NetAudio
