import NetAudio.Form.SettingsChecks
import NetAudio.Proofs.Form.Checks
import NetAudio.Proofs.Packet.Policies
import NetAudio.Proofs.Session.Submit

/-!
# Default forms under valid settings

Settings that pass their check make a clock whose packets hold at least 48 samples.  So the source that a
form starts with is valid at once, and the daemon takes it.
-/

set_option autoImplicit false

namespace NetAudio

/-! ## Clocks of valid settings -/

namespace SettingsEdit

/-- A valid edit sets a packet time and a rate that are on offer. -/
theorem offered_of_valid {edit : SettingsEdit} (valid : edit.validate.isValid = true) :
    edit.ticFrameSize ∈ ticFrameSizes ∧ edit.sampleRate ∈ sampleRates := by
  rw [Validation.isValid_iff] at valid
  have offered := valid (.ticFrameSize, Issue.unlessOffered (ticFrameSizes.contains edit.ticFrameSize))
    (by simp [validate])
  have supported := valid (.sampleRate, Issue.unlessOffered (sampleRates.contains edit.sampleRate))
    (by simp [validate])
  rw [Issue.unlessOffered_eq_none] at offered supported
  exact ⟨List.contains_iff_mem.mp offered, List.contains_iff_mem.mp supported⟩

/-- Every packet time on offer holds 48 samples. -/
theorem le_of_offered {samples : UInt32} (offered : samples ∈ ticFrameSizes) : 48 ≤ samples.toNat := by
  have all : ticFrameSizes.all (fun samples => 48 ≤ samples.toNat) = true := by decide
  exact of_decide_eq_true (List.all_eq_true.mp all samples offered)

/-- Every rate on offer is one that a daemon can run at. -/
theorem supported_of_offered {hz : UInt32} (offered : hz ∈ sampleRates) :
    SampleRate.Supported hz := by
  have all : sampleRates.all (fun hz => SampleRate.Supported hz) = true := by decide
  exact of_decide_eq_true (List.all_eq_true.mp all hz offered)

end SettingsEdit

theorem SampleRate.frameMultiplier_pos (rate : SampleRate) : 1 ≤ rate.frameMultiplier.toNat := by
  cases rate <;> decide

theorem DaemonSettings.clock_apply {edit : SettingsEdit} (valid : edit.validate.isValid = true)
    (settings : DaemonSettings) :
    ∃ clock, (∀ policy, (settings.apply edit).clock policy = .ok clock) ∧
      48 ≤ clock.maxSamplesPerPacket.toNat := by
  obtain ⟨offered, listed⟩ := SettingsEdit.offered_of_valid valid
  obtain ⟨rate, supported⟩ :=
    (SampleRate.supported_iff edit.sampleRate).mp (SettingsEdit.supported_of_offered listed)
  have size : 48 ≤ edit.ticFrameSize.toNat := SettingsEdit.le_of_offered offered
  have positive : edit.ticFrameSize ≠ 0 := by
    intro none
    rw [none] at size
    exact absurd size (by decide)
  refine ⟨⟨edit.sampleRate, edit.ticFrameSize, rate.frameMultiplier⟩, ?_, ?_⟩
  · intro policy
    exact (Clock.resolve_of_supported supported policy).trans (Clock.ofMultiplier_of_ne_zero positive)
  · apply (Clock.le_ceiling_iff _ 48).mpr
    exact Nat.le_trans size (Nat.le_mul_of_pos_right _ rate.frameMultiplier_pos)

/-! ## Default sources -/

/-- The source that a form starts with is valid exactly under a managed id, where a packet may hold its
48 samples and its two channels of them fit the budget. -/
theorem SourceDraft.withDefaults_valid_iff (id : UInt8) (context : FormContext) :
    ((SourceDraft.withDefaults id).validate context).isValid = true ↔
      id.toNat ≤ 63 ∧ 48 ≤ context.clock.maxSamplesPerPacket.toNat ∧ 192 ≤ context.budget.toNat := by
  have ceiling := context.clock.le_ceiling_iff 48
  rw [SourceDraft.isValid_iff_acceptable]
  constructor
  · intro acceptable
    exact ⟨acceptable.id, ceiling.mpr acceptable.ceiling, acceptable.budget⟩
  · rintro ⟨managed, above, room⟩
    exact {
      id := managed
      name := by simp [withDefaults]
      address := .inl rfl
      ttl := by simp [withDefaults]
      payloadType := by simp [withDefaults]
      dscp := by simp [withDefaults]
      samples := by simp [withDefaults]
      ceiling := ceiling.mp above
      budget := room }

/-! ## Default forms -/

/-- A daemon whose settings make a clock under which every default source, with a managed id and room
for its packet, can be submitted at once and is stored. -/
def Daemon.TakesDefaults (daemon : Daemon) : Prop :=
  ∃ clock, (∀ policy, daemon.settings.clock policy = .ok clock) ∧
    48 ≤ clock.maxSamplesPerPacket.toNat ∧
    ∀ (mode : EditMode) (id : UInt8) (budget : UInt64), id.toNat ≤ 63 → 192 ≤ budget.toNat →
      let form : EditForm StreamKind.source.Draft :=
        .start mode (SourceDraft.withDefaults id) ⟨clock, budget⟩
      form.validate.isValid = true ∧ form.canSubmit = true ∧ SubmitSucceeds form daemon ∧
        StreamDraft.id form.draft = id

theorem Daemon.takesDefaults_of_valid {daemon : Daemon} {edit : SettingsEdit}
    (valid : edit.validate.isValid = true) (keyed : daemon.Keyed) (clear : daemon.refusal = none)
    (settings : DaemonSettings) (applied : daemon.settings = settings.apply edit) :
    daemon.TakesDefaults := by
  obtain ⟨clock, resolved, above⟩ := DaemonSettings.clock_apply valid settings
  refine ⟨clock, ?_, above, ?_⟩
  · intro policy
    rw [applied]
    exact resolved policy
  · intro mode id budget managed room form
    have accepted : form.validate.isValid = true :=
      (SourceDraft.withDefaults_valid_iff id ⟨clock, budget⟩).mpr ⟨managed, above, room⟩
    have enabled : form.canSubmit = true := (canSubmit_iff form).mpr ⟨rfl, accepted⟩
    exact ⟨accepted, enabled, submit_of_clear form daemon enabled keyed clear, rfl⟩

/-- Whatever a daemon's settings are, a valid edit of them that it takes leaves it with a clock that no
policy changes and with packets of at least 48 samples, and it takes every default source.  Under any
clock and budget a default source is valid exactly if its id is managed and its packet fits both. -/
theorem valid_settings_open_forms :
    (∀ (settings : DaemonSettings) (history : List DaemonStep) (edit : SettingsEdit),
      edit.validate.isValid = true →
        let daemon := (Daemon.start settings).afterRun history
        daemon.refusal = none →
          ∃ after, carryOut (Daemon.answer (.setSettings edit)) daemon = (.ok .done, after) ∧
            after.settings = daemon.settings.apply edit ∧ after.TakesDefaults) ∧
    ∀ (id : UInt8) (context : FormContext),
      ((SourceDraft.withDefaults id).validate context).isValid = true ↔
        id.toNat ≤ 63 ∧ 48 ≤ context.clock.maxSamplesPerPacket.toNat ∧
          192 ≤ context.budget.toNat := by
  constructor
  · intro settings history edit valid daemon clear
    have keyed : daemon.Keyed := Daemon.keyed_afterRun settings history
    have move : DaemonMove daemon (.call (.setSettings edit)) (.ok .done)
        { daemon with settings := daemon.settings.apply edit } := .setSettings edit clear
    have kept := Daemon.keyed_move keyed move
    exact ⟨_, Daemon.carryOut_setSettings edit clear, rfl,
      Daemon.takesDefaults_of_valid valid kept clear daemon.settings rfl⟩
  · exact SourceDraft.withDefaults_valid_iff

/-- Settings for 96 kHz, on a daemon that has a source. -/
theorem source_opens_at_96_kHz :
    let edit : SettingsEdit :=
      { logSeverity := 2, syslogProto := "udp", syslogServer := "10.0.0.9:514"
        rtpMcastBase := "239.1.0.1", rtpPort := 5004, rtspPort := 8854, playoutDelay := 0
        ticFrameSize := 48, sampleRate := 96000, maxTicFrameSize := 1024
        sapMcastAddr := "239.255.255.255", sapInterval := 30, mdnsEnabled := true
        customNodeId := "stage_1", autoSinksUpdate := true }
    let put : DaemonStep :=
      .call (.putSource ⟨2, true, "Old", "", 48, .l16, "", 15, 98, 34, false, [9, 4, 70]⟩)
    edit.validate.isValid = true ∧
      ∃ after, carryOut (Daemon.answer (.setSettings edit)) ((Daemon.start .blank).afterRun [put]) =
          (.ok .done, after) ∧ after.settings = DaemonSettings.blank.apply edit ∧ after.TakesDefaults := by
  intro edit put
  have valid : edit.validate.isValid = true := by decide
  exact ⟨valid, valid_settings_open_forms.1 .blank [put] edit valid rfl⟩

end NetAudio
