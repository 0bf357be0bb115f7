import NetAudio.Proofs.Daemon.History

/-!
# Settings and their two writers

The settings of a daemon fall into three parts: what a settings edit replaces, the PTP settings, and what
belongs to the host.  Each of the two writes replaces its own part and keeps the others, so after every
run each part is the one that was accepted last, and the host's part is the first one.
-/

set_option autoImplicit false

namespace NetAudio

/-- The settings that no call changes. -/
structure HostSettings where
  httpPort : UInt16
  statusFile : String
  interfaceName : String
  macAddr : String
  ipAddr : String
  nodeId : String
  deriving DecidableEq, Repr

/-! ## Parts of the settings -/

namespace DaemonSettings

def host (settings : DaemonSettings) : HostSettings where
  httpPort := settings.httpPort
  statusFile := settings.statusFile
  interfaceName := settings.interfaceName
  macAddr := settings.macAddr
  ipAddr := settings.ipAddr
  nodeId := settings.nodeId

/-- Settings are their three parts. -/
theorem ext_parts {settings other : DaemonSettings} (edit : settings.toEdit = other.toEdit)
    (ptp : settings.ptp = other.ptp) (host : settings.host = other.host) : settings = other := by
  cases settings
  cases other
  simp only [toEdit, SettingsEdit.mk.injEq] at edit
  simp only [DaemonSettings.ptp, PtpSettings.mk.injEq] at ptp
  simp only [DaemonSettings.host, HostSettings.mk.injEq] at host
  simp only [DaemonSettings.mk.injEq]
  simp only [edit, ptp, host, and_self]

section Writes
variable (settings : DaemonSettings)

@[simp] theorem toEdit_apply (edit : SettingsEdit) : (settings.apply edit).toEdit = edit := rfl

@[simp] theorem ptp_apply (edit : SettingsEdit) : (settings.apply edit).ptp = settings.ptp := rfl

@[simp] theorem host_apply (edit : SettingsEdit) : (settings.apply edit).host = settings.host := rfl

@[simp] theorem toEdit_withPtp (ptp : PtpSettings) :
    (settings.withPtp ptp).toEdit = settings.toEdit := rfl

@[simp] theorem ptp_withPtp (ptp : PtpSettings) : (settings.withPtp ptp).ptp = ptp := rfl

@[simp] theorem host_withPtp (ptp : PtpSettings) : (settings.withPtp ptp).host = settings.host := rfl

theorem apply_toEdit : settings.apply settings.toEdit = settings := by
  apply ext_parts
  · rw [toEdit_apply]
  · rw [ptp_apply]
  · rw [host_apply]

theorem apply_apply (edit later : SettingsEdit) :
    (settings.apply edit).apply later = settings.apply later := by
  apply ext_parts
  · rw [toEdit_apply, toEdit_apply]
  · rw [ptp_apply, ptp_apply, ptp_apply]
  · rw [host_apply, host_apply, host_apply]

end Writes

end DaemonSettings

/-! ## Accepted writes -/

namespace DaemonEvent

def acceptedEdit? (event : DaemonEvent) : Option SettingsEdit :=
  match event.step, event.answer with
  | .call (.setSettings edit), .ok _ => some edit
  | _, _ => none

def acceptedPtp? (event : DaemonEvent) : Option PtpSettings :=
  match event.step, event.answer with
  | .call (.setPtpSettings ptp), .ok _ => some ptp
  | _, _ => none

theorem acceptedEdit?_of_read {call : DaemonCall} (reads : call.isWrite = false)
    (result : Except DaemonError DaemonReply) (before after : Daemon) :
    acceptedEdit? ⟨before, .call call, result, after⟩ = none := by
  cases call <;> first | rfl | cases reads

theorem acceptedPtp?_of_read {call : DaemonCall} (reads : call.isWrite = false)
    (result : Except DaemonError DaemonReply) (before after : Daemon) :
    acceptedPtp? ⟨before, .call call, result, after⟩ = none := by
  cases call <;> first | rfl | cases reads

end DaemonEvent

namespace Daemon

section Moves
variable {before after : Daemon} {step : DaemonStep} {answer : Except DaemonError DaemonReply}

theorem move_edit (move : DaemonMove before step answer after) :
    after.settings.toEdit =
      (DaemonEvent.acceptedEdit? ⟨before, step, answer, after⟩).getD before.settings.toEdit := by
  cases move with
  | read call result reads answered =>
      rw [DaemonEvent.acceptedEdit?_of_read reads, Option.getD_none]
  | refused call status body writes armed => cases call <;> rfl
  | setSettings edit clear => exact before.settings.toEdit_apply edit
  | setPtpSettings ptp clear => exact before.settings.toEdit_withPtp ptp
  | _ => rfl

theorem move_ptp (move : DaemonMove before step answer after) :
    after.settings.ptp =
      (DaemonEvent.acceptedPtp? ⟨before, step, answer, after⟩).getD before.settings.ptp := by
  cases move with
  | read call result reads answered =>
      rw [DaemonEvent.acceptedPtp?_of_read reads, Option.getD_none]
  | refused call status body writes armed => cases call <;> rfl
  | setSettings edit clear => exact before.settings.ptp_apply edit
  | setPtpSettings ptp clear => exact before.settings.ptp_withPtp ptp
  | _ => rfl

theorem move_host (move : DaemonMove before step answer after) :
    after.settings.host = before.settings.host := by
  cases move with
  | setSettings edit clear => exact before.settings.host_apply edit
  | setPtpSettings ptp clear => exact before.settings.host_withPtp ptp
  | _ => rfl

end Moves

/-! ## Runs -/

/-- The settings of a daemon after some events: each writer's part as it was accepted last, and the
host's part as it was at first. -/
structure SettingsFollow (opened : DaemonSettings) (events : List DaemonEvent) (daemon : Daemon) :
    Prop where
  edit : daemon.settings.toEdit = (latest DaemonEvent.acceptedEdit? events).getD opened.toEdit
  ptp : daemon.settings.ptp = (latest DaemonEvent.acceptedPtp? events).getD opened.ptp
  host : daemon.settings.host = opened.host

theorem settingsFollow_move {opened : DaemonSettings} {before after : Daemon}
    {events : List DaemonEvent} {step : DaemonStep} {answer : Except DaemonError DaemonReply}
    (follow : SettingsFollow opened events before)
    (move : DaemonMove before step answer after) :
    SettingsFollow opened (events ++ [⟨before, step, answer, after⟩]) after where
  edit := by
    rw [latest_concat, Option.getD_or, ← follow.edit]
    exact move_edit move
  ptp := by
    rw [latest_concat, Option.getD_or, ← follow.ptp]
    exact move_ptp move
  host := by
    rw [move_host move]
    exact follow.host

theorem settingsFollow_afterRun (daemon : Daemon) (steps : List DaemonStep) :
    SettingsFollow daemon.settings (daemon.events steps) (daemon.afterRun steps) :=
  run_induction perform_daemon_moves (fun _ _ _ _ _ => settingsFollow_move) steps [] daemon {
    edit := rfl
    ptp := rfl
    host := rfl }

/-- A settings write is accepted exactly if nothing is armed against it. -/
theorem accepts_iff_clear (daemon : Daemon) {call : DaemonCall}
    (writer : (∃ edit, call = .setSettings edit) ∨ ∃ ptp, call = .setPtpSettings ptp) :
    (carryOut (answer call) daemon).1 = .ok .done ↔ daemon.refusal = none := by
  have writes : call.isWrite = true := by
    rcases writer with ⟨edit, rfl⟩ | ⟨ptp, rfl⟩
    · rfl
    · rfl
  cases pending : daemon.refusal with
  | none =>
      rcases writer with ⟨edit, rfl⟩ | ⟨ptp, rfl⟩
      · simp [carryOut_setSettings edit pending]
      · simp [carryOut_setPtpSettings ptp pending]
  | some refusal =>
      obtain ⟨status, body⟩ := refusal
      simp [carryOut_write_of_refusal call writes pending]

/-- An edit replaces exactly its own part of the settings.  So after every run of calls and other steps
the settings that a daemon reports have the edit that it accepted last, the PTP settings that it accepted
last, and all else as it was at first. -/
theorem settings_have_two_writers :
    (∀ (settings : DaemonSettings) (edit later : SettingsEdit),
      (settings.apply edit).toEdit = edit ∧
        settings.apply settings.toEdit = settings ∧
        (settings.apply edit).apply later = settings.apply later ∧
        (settings.apply edit).ptp = settings.ptp ∧
        (settings.apply edit).host = settings.host) ∧
    ∀ (daemon : Daemon) (steps : List DaemonStep),
      let after := daemon.afterRun steps
      carryOut (answer .settings) after = (.ok (.settings after.settings), after) ∧
        carryOut (answer .ptpSettings) after = (.ok (.ptpSettings after.settings.ptp), after) ∧
        SettingsFollow daemon.settings (daemon.events steps) after ∧
        ∀ edit ptp,
          ((carryOut (answer (.setSettings edit)) after).1 = .ok .done ↔ after.refusal = none) ∧
          ((carryOut (answer (.setPtpSettings ptp)) after).1 = .ok .done ↔ after.refusal = none) := by
  constructor
  · intro settings edit later
    exact ⟨settings.toEdit_apply edit, settings.apply_toEdit, settings.apply_apply edit later,
      settings.ptp_apply edit, settings.host_apply edit⟩
  · intro daemon steps after
    refine ⟨rfl, rfl, settingsFollow_afterRun daemon steps, ?_⟩
    intro edit ptp
    exact ⟨accepts_iff_clear after (.inl ⟨edit, rfl⟩), accepts_iff_clear after (.inr ⟨ptp, rfl⟩)⟩

end Daemon

end NetAudio
