import NetAudio.Proofs.Console.SettingsFile

/-!
# Partial settings files

A file that spells settings but for some sections and keys is loaded as the settings with the defaults
of these.  Whether it is taken depends only on the settings that come of it.
-/

set_option autoImplicit false

namespace NetAudio.ConsoleSettings

open Json

variable {settings : ConsoleSettings}

/-! ## Files for every omission -/

theorem read?_keptSections (fits : settings.Fits) (omission : Omission) :
    Toml.read? (Toml.write (settings.keptSections omission)) =
      some (Toml.ofSections (settings.keptSections omission)) := by
  have kept {holds : Toml.Section → Prop} (all : ∀ part ∈ settings.sections, holds part) :
      ∀ part ∈ settings.sections.filter (fun part => part.name ∉ omission.sections), holds part :=
    fun part among => all part (List.mem_filter.mp among).1
  refine Toml.read?_write ?_ ?_ ?_
  · rw [keptSections, List.forall_mem_map]
    refine kept fun part member => ?_
    have legible := legible_sections fits part member
    exact ⟨legible.bare, fun entry among => legible.entries entry (List.mem_filter.mp among).1⟩
  · rw [keptSections, List.map_map]
    exact settings.names_sections.sublist (List.filter_sublist.map _)
  · rw [keptSections, List.forall_mem_map]
    refine kept fun part member => ?_
    exact (settings.keys_sections part member).sublist (List.filter_sublist.map _)

/-- Whatever is to be left out, there is a file that leaves it out. -/
theorem exists_partial_file (fits : settings.Fits) (omission : Omission) :
    ∃ text document, Toml.read? text = some document ∧ settings.Spells omission document :=
  ⟨_, _, read?_keptSections fits omission, settings.spells_keptSections omission⟩

/-! ## Loading -/

/-- How settings are taken or refused: of several faults the first counts. -/
inductive Verdict (settings : ConsoleSettings) : Except ConsoleError ConsoleSettings → Prop where
  | baseUrl (other : Url.isAbsolute settings.daemon.baseUrl = false) :
      Verdict settings
        (.error (.settings ("daemon.base_url is not a URL: " ++ settings.daemon.baseUrl)))
  | timeout (url : Url.isAbsolute settings.daemon.baseUrl = true)
      (zero : settings.daemon.timeoutSecs = 0) :
      Verdict settings (.error (.settings "daemon.timeout_secs must be positive"))
  | periods (url : Url.isAbsolute settings.daemon.baseUrl = true)
      (timeout : settings.daemon.timeoutSecs ≠ 0)
      (zero : settings.polling.ptpStatusSecs = 0 ∨ settings.polling.remoteSourcesSecs = 0) :
      Verdict settings (.error (.settings "polling periods must be positive"))
  | packet (url : Url.isAbsolute settings.daemon.baseUrl = true)
      (timeout : settings.daemon.timeoutSecs ≠ 0)
      (periods : settings.polling.ptpStatusSecs ≠ 0 ∧ settings.polling.remoteSourcesSecs ≠ 0)
      (zero : settings.calculator.maxPacketSize = 0) :
      Verdict settings (.error (.settings "calc.max_packet_size must be positive"))
  | taken (url : Url.isAbsolute settings.daemon.baseUrl = true)
      (timeout : settings.daemon.timeoutSecs ≠ 0)
      (periods : settings.polling.ptpStatusSecs ≠ 0 ∧ settings.polling.remoteSourcesSecs ≠ 0)
      (packet : settings.calculator.maxPacketSize ≠ 0) : Verdict settings (.ok settings)

theorem verdict_check (settings : ConsoleSettings) :
    settings.Verdict (settings.check.map fun _ => settings) := by
  have refused {text : String} (checked : settings.check = throw (.settings text))
      (verdict : settings.Verdict (.error (.settings text))) :
      settings.Verdict (settings.check.map fun _ => settings) := by
    rw [checked]
    exact verdict
  by_cases url : Url.isAbsolute settings.daemon.baseUrl = true
  · by_cases timeout : settings.daemon.timeoutSecs = 0
    · exact refused (by simp [check, url, timeout]; rfl) (.timeout url timeout)
    · by_cases zero : settings.polling.ptpStatusSecs = 0 ∨ settings.polling.remoteSourcesSecs = 0
      · exact refused (by simp [check, url, timeout, zero]; rfl) (.periods url timeout zero)
      · have periods := not_or.mp zero
        by_cases packet : settings.calculator.maxPacketSize = 0
        · exact refused (by simp [check, url, timeout, zero, packet]) (.packet url timeout periods packet)
        · have checked : settings.check = .ok () := by
            simp [check, url, timeout, zero, packet]
            rfl
          rw [checked]
          exact .taken url timeout periods packet
  · have other := Bool.eq_false_iff.mpr url
    exact refused (by simp [check, other]; rfl) (.baseUrl other)

theorem default_check : default.check = .ok () := by
  have url : Url.isAbsolute default.daemon.baseUrl = true := by decide +kernel
  rw [check, url]
  rfl

theorem check_of_load {file after : Option String}
    (loaded : carryOut load file = (.ok settings, after)) : settings.check = .ok () := by
  cases file with
  | none => simp [load] at loaded
  | some text =>
      cases read : ofText text with
      | error cause => simp [load, load.ofExcept, read] at loaded
      | ok found =>
          rw [carryOut_load read] at loaded
          cases checked : found.check with
          | error cause =>
              rw [checked] at loaded
              cases loaded
          | ok done =>
              rw [checked] at loaded
              cases loaded
              exact checked

theorem carryOut_loadOrDefault_some (text : String) :
    carryOut loadOrDefault (some text) = carryOut load (some text) := by
  simp [loadOrDefault]

theorem carryOut_loadOrDefault_none : carryOut loadOrDefault none = (.ok default, none) := by
  simp [loadOrDefault]

/-- A file that spells settings but for what it leaves out is loaded as the settings with the defaults
of that, if the check takes these, and is refused with their first fault otherwise.  Where there is no
file the settings are the defaults, so settings that are loaded have always passed the check. -/
theorem partial_files_load :
    (∀ (settings : ConsoleSettings) (omission : Omission) (text : String) (document : Toml),
      Toml.read? text = some document → settings.Spells omission document →
        ∃ outcome, (settings.leavingOut omission).Verdict outcome ∧
          outcome =
            (settings.leavingOut omission).check.map (fun _ => settings.leavingOut omission) ∧
          carryOut load (some text) = (outcome, some text) ∧
          carryOut loadOrDefault (some text) = (outcome, some text)) ∧
    (∀ (settings : ConsoleSettings) (omission : Omission), settings.Fits →
      ∃ text document, Toml.read? text = some document ∧ settings.Spells omission document) ∧
    (∀ text, carryOut loadOrDefault (some text) = carryOut load (some text)) ∧
    carryOut loadOrDefault none = (.ok default, none) ∧
    ∀ file settings after, carryOut load file = (.ok settings, after) ∨
      carryOut loadOrDefault file = (.ok settings, after) → settings.check = .ok () := by
  refine ⟨?_, ?_, carryOut_loadOrDefault_some, carryOut_loadOrDefault_none, ?_⟩
  · intro settings omission text document read spells
    have loaded := carryOut_load (ofText_of_spells read spells)
    refine ⟨_, verdict_check _, rfl, loaded, ?_⟩
    rw [carryOut_loadOrDefault_some]
    exact loaded
  · intro settings omission fits
    exact exists_partial_file fits omission
  · rintro file settings after (loaded | loaded)
    · exact check_of_load loaded
    · cases file with
      | none =>
          rw [carryOut_loadOrDefault_none] at loaded
          cases loaded
          exact default_check
      | some text =>
          rw [carryOut_loadOrDefault_some] at loaded
          exact check_of_load loaded

/-- A file with the calculator before the daemon, with a key and a section that no settings have, and
without the rest. -/
theorem reordered_partial_file_loads :
    let sections : List Toml.Section :=
      [⟨"calc", [("spare", .boolean true), ("rate_policy", .string "degrade_to_base")]⟩,
        ⟨"extra", [("base_url", .string "nowhere")]⟩,
        ⟨"daemon", [("base_url", .string "http://10.0.0.5:8080")]⟩]
    carryOut load (some (Toml.write sections)) =
      (.ok { default with
        daemon := ⟨"http://10.0.0.5:8080", 10⟩
        calculator := ⟨.degradeToBase, 1440⟩ }, some (Toml.write sections)) := by
  intro sections
  have legible : ∀ part ∈ sections, part.Legible := by
    simp only [sections, List.forall_mem_cons]
    exact ⟨⟨by decide, by simp [Toml.Scalar.Legible.boolean, Toml.Scalar.Legible.string]; decide⟩,
      ⟨by decide, by simp [Toml.Scalar.Legible.string]; decide⟩,
      ⟨by decide, by simp [Toml.Scalar.Legible.string]; decide⟩, List.forall_mem_nil _⟩
  have spells : ConsoleSettings.Spells
      { default with daemon := ⟨"http://10.0.0.5:8080", 99⟩, calculator := ⟨.degradeToBase, 7⟩ }
      ⟨["ui", "polling"], fun _ => ["timeout_secs", "max_packet_size"]⟩
      (Toml.ofSections sections) := by
    refine ⟨_, rfl, ?_⟩
    simp only [spelling, List.forall_mem_cons]
    refine ⟨⟨_, rfl, _, rfl, ?_⟩, rfl, rfl, ⟨_, rfl, _, rfl, ?_⟩, List.forall_mem_nil _⟩
    · simp only [DaemonLink.entries, List.forall_mem_cons]
      exact ⟨rfl, rfl, List.forall_mem_nil _⟩
    · simp only [CalculatorSettings.entries, List.forall_mem_cons]
      exact ⟨rfl, rfl, List.forall_mem_nil _⟩
  obtain ⟨outcome, -, made, loaded, -⟩ := partial_files_load.1 _ _ _ _
    (Toml.read?_write legible (by decide) (by decide)) spells
  have url : Url.isAbsolute "http://10.0.0.5:8080" = true := by decide +kernel
  rw [loaded, made]
  simp [leavingOut, DaemonLink.leavingOut, CalculatorSettings.leavingOut, orDefault, check, url]
  rfl

end NetAudio.ConsoleSettings
