import NetAudio.Proofs.Console.Spelling

/-!
# The settings file

Settings that fit into a file are read back from it, whatever their strings hold: the file is read as its
sections, and these spell the settings with nothing left out.
-/

set_option autoImplicit false

namespace NetAudio.ConsoleSettings
variable {settings : ConsoleSettings}

structure Fits (settings : ConsoleSettings) : Prop where
  timeoutSecs : settings.daemon.timeoutSecs.toNat ≤ 2 ^ 63 - 1
  ptpStatusSecs : settings.polling.ptpStatusSecs.toNat ≤ 2 ^ 63 - 1
  remoteSourcesSecs : settings.polling.remoteSourcesSecs.toNat ≤ 2 ^ 63 - 1
  maxPacketSize : settings.calculator.maxPacketSize.toNat ≤ 2 ^ 63 - 1

theorem holdsInteger_natCast (n : Nat) : Toml.holdsInteger n = true ↔ n ≤ 2 ^ 63 - 1 := by
  have low : Int64.minValue.toInt = -(2 ^ 63) := by decide
  have high : Int64.maxValue.toInt = 2 ^ 63 - 1 := by decide
  simp only [Toml.holdsInteger, low, high, Bool.and_eq_true, decide_eq_true_eq]
  omega

theorem fits_iff (settings : ConsoleSettings) :
    (settings.integers.all fun value => Toml.holdsInteger value.toNat) = true ↔ settings.Fits := by
  simp only [integers, List.all_cons, List.all_nil, Bool.and_true, Bool.and_eq_true,
    holdsInteger_natCast]
  exact ⟨fun ⟨timeout, ptp, remote, packet⟩ => ⟨timeout, ptp, remote, packet⟩,
    fun fits => ⟨fits.timeoutSecs, fits.ptpStatusSecs, fits.remoteSourcesSecs, fits.maxPacketSize⟩⟩

theorem legible_sections (fits : settings.Fits) : ∀ part ∈ settings.sections, part.Legible := by
  have word (value : UInt64) (room : value.toNat ≤ 2 ^ 63 - 1) :
      (Toml.Scalar.integer value.toNat).Legible :=
    .integer _ ((holdsInteger_natCast _).mpr room)
  have port : (Toml.Scalar.integer settings.service.httpPort.toNat).Legible := by
    have small := settings.service.httpPort.toNat_lt
    exact .integer _ ((holdsInteger_natCast _).mpr (by omega))
  have nothing (p : String × Toml.Scalar → Prop) : ∀ entry ∈ [], p entry := List.forall_mem_nil p
  simp only [sections, List.forall_mem_cons]
  refine ⟨⟨(by decide : Toml.Bare "daemon"), ?_⟩, ⟨(by decide : Toml.Bare "ui"), ?_⟩,
    ⟨(by decide : Toml.Bare "polling"), ?_⟩, ⟨(by decide : Toml.Bare "calc"), ?_⟩,
    List.forall_mem_nil _⟩
  · simp only [List.forall_mem_cons]
    exact ⟨⟨by decide, .string _⟩, ⟨by decide, word _ fits.timeoutSecs⟩, nothing _⟩
  · simp only [List.forall_mem_append, List.forall_mem_cons]
    refine ⟨⟨⟨by decide, .string _⟩, ⟨by decide, port⟩, nothing _⟩, ?_⟩
    intro entry member
    obtain ⟨dir, -, rfl⟩ := List.mem_map.mp member
    exact ⟨(by decide : Toml.Bare "static_dir"), .string dir⟩
  · simp only [List.forall_mem_cons]
    exact ⟨⟨by decide, word _ fits.ptpStatusSecs⟩, ⟨by decide, word _ fits.remoteSourcesSecs⟩,
      nothing _⟩
  · simp only [List.forall_mem_cons]
    exact ⟨⟨by decide, .string _⟩, ⟨by decide, word _ fits.maxPacketSize⟩, nothing _⟩

theorem names_sections (settings : ConsoleSettings) :
    (settings.sections.map (·.name)).Nodup := by
  show ["daemon", "ui", "polling", "calc"].Nodup
  decide

theorem keys_sections (settings : ConsoleSettings) :
    ∀ part ∈ settings.sections, (part.entries.map (·.1)).Nodup := by
  simp only [sections, List.forall_mem_cons]
  refine ⟨by simp, ?_, by simp, by simp, List.forall_mem_nil _⟩
  cases settings.service.staticDir <;> simp

/-! ## Reading back -/

theorem ofText_sections (fits : settings.Fits) :
    ofText (Toml.write settings.sections) = .ok settings := by
  have read := Toml.read?_write (legible_sections fits) settings.names_sections
    settings.keys_sections
  have whole : settings.keptSections .nothing = settings.sections := by
    simp [keptSections, Omission.nothing]
  have spells := settings.spells_keptSections .nothing
  rw [whole] at spells
  rw [ofText_of_spells read spells, leavingOut_nothing]

/-! ## Actions -/

theorem carryOut_save_of_fits (fits : settings.Fits) (file : Option String) :
    carryOut settings.save file = (.ok (), some (Toml.write settings.sections)) := by
  have text : settings.toText = .ok (Toml.write settings.sections) :=
    if_pos ((fits_iff settings).mpr fits)
  simp [save, text]

theorem carryOut_save_of_not_fits (large : ¬ settings.Fits) (file : Option String) :
    carryOut settings.save file = (.error .unwritable, file) := by
  have text : settings.toText = .error .unwritable :=
    if_neg (mt (fits_iff settings).mp large)
  simp [save, text]

theorem carryOut_load {text : String} (read : ofText text = .ok settings) :
    carryOut load (some text) = (settings.check.map fun _ => settings, some text) := by
  cases checked : settings.check <;>
    simp [load, load.ofExcept, read, checked, Except.map]

structure SavesAndLoads (settings : ConsoleSettings) (file : Option String) : Prop where
  saved_iff : (∃ after, carryOut settings.save file = (.ok (), after)) ↔ settings.Fits
  refused : ¬ settings.Fits → carryOut settings.save file = (.error .unwritable, file)
  accepted : ∀ after, carryOut settings.save file = (.ok (), after) → settings.check = .ok () →
    carryOut load after = (.ok settings, after)
  /-- Settings that were saved unchecked are refused as the check refuses them. -/
  rejected : ∀ after cause, carryOut settings.save file = (.ok (), after) →
    settings.check = .error cause → carryOut load after = (.error cause, after)

/-- Settings whose numbers have room in a file are saved, and loaded again as they were. -/
theorem saved_settings_load_back (settings : ConsoleSettings) (file : Option String) :
    settings.SavesAndLoads file := by
  have found {after : Option String} (saved : carryOut settings.save file = (.ok (), after)) :
      carryOut load after = (settings.check.map fun _ => settings, after) := by
    by_cases fits : settings.Fits
    · rw [carryOut_save_of_fits fits] at saved
      cases saved
      exact carryOut_load (ofText_sections fits)
    · rw [carryOut_save_of_not_fits fits] at saved
      cases saved
  refine ⟨⟨?_, fun fits => ⟨_, carryOut_save_of_fits fits file⟩⟩,
    fun large => carryOut_save_of_not_fits large file, ?_, ?_⟩
  · rintro ⟨after, saved⟩
    by_contra large
    rw [carryOut_save_of_not_fits large] at saved
    cases saved
  · intro after saved checked
    rw [found saved, checked]
    rfl
  · intro after cause saved checked
    rw [found saved, checked]
    rfl

end NetAudio.ConsoleSettings
