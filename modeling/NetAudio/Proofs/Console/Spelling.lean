import NetAudio.Console.File
import NetAudio.Proofs.Json.Tolerance
import NetAudio.Proofs.Toml.Documents
import NetAudio.Proofs.Toml.Names
import NetAudio.Proofs.Wire.Documents

/-!
# How documents spell settings

A document spells settings if it has their values under their names.  It may leave out any sections and
any keys, may have them in any order and other names among them: it is read as the settings with the
defaults of what is left out.  Every section has defaults of its own, which count for its missing keys
as for the section as a whole.
-/

set_option autoImplicit false

namespace NetAudio

open Json

/-! ## Records in TOML -/

namespace Toml

theorem membersToJson_eq_map (members : List (String × Toml)) :
    membersToJson members = members.map fun (name, value) => (name, value.toJson) := by
  induction members with
  | nil => rfl
  | cons member members ih =>
      rw [List.map_cons, ← ih]
      rfl

mutual

theorem intact_toJson : (value : Toml) → value.toJson.intact = true
  | .scalar value => by cases value <;> rfl
  | .array items => intact_itemsToJson items
  | .table members => intact_membersToJson members

theorem intact_itemsToJson : (items : List Toml) → intactItems (itemsToJson items) = true
  | [] => rfl
  | item :: rest => by
      rw [itemsToJson, intactItems, intact_toJson item, intact_itemsToJson rest]
      rfl

theorem intact_membersToJson :
    (members : List (String × Toml)) → intactMembers (membersToJson members) = true
  | [] => rfl
  | (name, value) :: rest => by
      rw [membersToJson, intactMembers, intact_toJson value, intact_membersToJson rest]
      rfl

end

/-- A table is read as a record if what stands under the names of the slots fills them. -/
theorem ofJson_table {ρ : Type} {form : Record ρ} (lawful : form.Lawful) {value : ρ}
    {members : List (String × Toml)} (distinct : (members.map (·.1)).Nodup)
    (fills : ∀ slot ∈ form.slots,
      Record.Fills slot form.blank value ((members.lookup slot.name).map toJson)) :
    form.ofJson (Toml.table members).toJson = .ok value := by
  rw [toJson, membersToJson_eq_map]
  refine Record.ofJson_of_fills lawful ?_ ?_ ?_
  · rw [List.map_map]
    exact distinct
  · intro member among
    obtain ⟨⟨name, value⟩, -, rfl⟩ := List.mem_map.mp among
    exact intact_toJson value
  · intro slot member
    rw [lookup_map fun _ => toJson]
    exact fills slot member

/-- A slot with a default is filled by what its part is, unless the name is left out. -/
theorem fills_of_orDefault {ρ α : Type} [Wire α] {get : ρ → α} {set : ρ → α → ρ} {name : String}
    (get_set : ∀ record value, get (set record value) = value)
    (set_get : ∀ record, set record (get record) = record)
    {absent : List String} {found : Option Toml} {given : α} {blank value : ρ}
    (left : name ∈ absent → found = none)
    (read : name ∉ absent → (∃ doc, found = some doc ∧ ofJson doc.toJson = .ok given) ∨
      (found = none ∧ given = get blank))
    (part : get value = orDefault absent name given (get blank)) :
    Record.Fills (Slot.defaulted name get set) blank value (found.map toJson) := by
  by_cases gone : name ∈ absent
  · rw [left gone]
    rw [orDefault_of_mem gone] at part
    exact .missing rfl (congrArg Json.toJson part)
  · rw [orDefault_of_not_mem gone] at part
    rcases read gone with ⟨doc, rfl, reads⟩ | ⟨rfl, blank⟩
    · refine .given _ ((Slot.required_holds_iff name get_set set_get _ value).mpr ?_)
      rw [part]
      exact reads
    · exact .missing rfl (congrArg Json.toJson (part.trans blank))

/-- The table has the given entries but those that are left out.  It may have others. -/
def Shows (absent : List String) (entries : List (String × Option Scalar)) (table : Toml) : Prop :=
  ∃ members, table = .table members ∧ ∀ entry ∈ entries,
    members.lookup entry.1 = orDefault absent entry.1 (entry.2.map .scalar) none

theorem adjust_eq_self {name : String} {change : Toml → Toml} {members : List (String × Toml)}
    (settled : ∀ value, (name, value) ∈ members → change value = value) :
    (Toml.table members).adjust name change = .table members := by
  have kept : ∀ member ∈ members,
      (member.1, if member.1 = name then change member.2 else member.2) = id member := by
    rintro ⟨other, value⟩ among
    by_cases same : other = name
    · subst same
      simp [settled value among]
    · simp [same]
  rw [adjust, List.map_congr_left kept, List.map_id]

theorem fills_of_entry {ρ α : Type} [Wire α] [Faithful α] {get : ρ → α} {set : ρ → α → ρ}
    {name : String} (get_set : ∀ record value, get (set record value) = value)
    (set_get : ∀ record, set record (get record) = record)
    {absent : List String} {entry : Option Scalar} {members : List (String × Toml)} {given : α}
    {blank value : ρ} (found : members.lookup name = orDefault absent name (entry.map .scalar) none)
    (spelt : ∀ scalar, entry = some scalar → scalar.toJson = Json.toJson given)
    (unspelt : entry = none → given = get blank)
    (part : get value = orDefault absent name given (get blank)) :
    Record.Fills (Slot.defaulted name get set) blank value ((members.lookup name).map toJson) := by
  refine fills_of_orDefault get_set set_get ?_ ?_ part
  · intro gone
    rw [found, orDefault_of_mem gone]
  · intro stays
    rw [found, orDefault_of_not_mem stays]
    cases entry with
    | none => exact .inr ⟨rfl, unspelt rfl⟩
    | some scalar =>
        refine .inl ⟨.scalar scalar, rfl, ?_⟩
        rw [toJson, spelt scalar rfl]
        exact ofJson_toJson given

end Toml

/-! ## What a file leaves out -/

structure Omission where
  sections : List String
  keys : String → List String

def Omission.nothing : Omission where
  sections := []
  keys _ := []

def DaemonLink.leavingOut (absent : List String) (link : DaemonLink) : DaemonLink where
  baseUrl := orDefault absent "base_url" link.baseUrl DaemonLink.default.baseUrl
  timeoutSecs := orDefault absent "timeout_secs" link.timeoutSecs DaemonLink.default.timeoutSecs

def ServiceSettings.leavingOut (absent : List String) (service : ServiceSettings) :
    ServiceSettings where
  bindAddress := orDefault absent "bind_address" service.bindAddress ServiceSettings.default.bindAddress
  httpPort := orDefault absent "http_port" service.httpPort ServiceSettings.default.httpPort
  staticDir := orDefault absent "static_dir" service.staticDir ServiceSettings.default.staticDir

def PollingSettings.leavingOut (absent : List String) (polling : PollingSettings) :
    PollingSettings where
  ptpStatusSecs :=
    orDefault absent "ptp_status_secs" polling.ptpStatusSecs PollingSettings.default.ptpStatusSecs
  remoteSourcesSecs :=
    orDefault absent "remote_sources_secs" polling.remoteSourcesSecs
      PollingSettings.default.remoteSourcesSecs

def CalculatorSettings.leavingOut (absent : List String) (calculator : CalculatorSettings) :
    CalculatorSettings where
  ratePolicy :=
    orDefault absent "rate_policy" calculator.ratePolicy CalculatorSettings.default.ratePolicy
  maxPacketSize :=
    orDefault absent "max_packet_size" calculator.maxPacketSize CalculatorSettings.default.maxPacketSize

namespace ConsoleSettings

/-- The settings with the defaults of what is left out. -/
def leavingOut (omission : Omission) (settings : ConsoleSettings) : ConsoleSettings where
  daemon := orDefault omission.sections "daemon"
    (settings.daemon.leavingOut (omission.keys "daemon")) default.daemon
  service := orDefault omission.sections "ui"
    (settings.service.leavingOut (omission.keys "ui")) default.service
  polling := orDefault omission.sections "polling"
    (settings.polling.leavingOut (omission.keys "polling")) default.polling
  calculator := orDefault omission.sections "calc"
    (settings.calculator.leavingOut (omission.keys "calc")) default.calculator

theorem leavingOut_nothing (settings : ConsoleSettings) : settings.leavingOut .nothing = settings := rfl

end ConsoleSettings

/-! ## How a file spells settings -/

def DaemonLink.entries (link : DaemonLink) : List (String × Option Toml.Scalar) :=
  [("base_url", some (.string link.baseUrl)), ("timeout_secs", some (.integer link.timeoutSecs.toNat))]

def ServiceSettings.entries (service : ServiceSettings) : List (String × Option Toml.Scalar) :=
  [("bind_address", some (.string service.bindAddress)),
    ("http_port", some (.integer service.httpPort.toNat)),
    ("static_dir", service.staticDir.map .string)]

def PollingSettings.entries (polling : PollingSettings) : List (String × Option Toml.Scalar) :=
  [("ptp_status_secs", some (.integer polling.ptpStatusSecs.toNat)),
    ("remote_sources_secs", some (.integer polling.remoteSourcesSecs.toNat))]

def CalculatorSettings.entries (calculator : CalculatorSettings) :
    List (String × Option Toml.Scalar) :=
  [("rate_policy", some (.string calculator.ratePolicy.word)),
    ("max_packet_size", some (.integer calculator.maxPacketSize.toNat))]

namespace ConsoleSettings

def spelling (settings : ConsoleSettings) : List (String × List (String × Option Toml.Scalar)) :=
  [("daemon", settings.daemon.entries), ("ui", settings.service.entries),
    ("polling", settings.polling.entries), ("calc", settings.calculator.entries)]

def HasPart (omission : Omission) (members : List (String × Toml))
    (part : String × List (String × Option Toml.Scalar)) : Prop :=
  if part.1 ∈ omission.sections then members.lookup part.1 = none
  else ∃ table, members.lookup part.1 = some table ∧ table.Shows (omission.keys part.1) part.2

/-- The document spells the settings but for what is left out.  It may have other names everywhere. -/
def Spells (settings : ConsoleSettings) (omission : Omission) (document : Toml) : Prop :=
  ∃ members, document = .table members ∧ ∀ part ∈ settings.spelling, HasPart omission members part

end ConsoleSettings

/-! ## Reading sections -/

section Sections
variable {absent : List String} {table : Toml} {link : DaemonLink} {service : ServiceSettings}
  {polling : PollingSettings} {calculator : CalculatorSettings} (distinct : table.Distinct)
include distinct

theorem DaemonLink.ofJson_of_shows (shows : table.Shows absent link.entries) :
    ofJson table.toJson = .ok (link.leavingOut absent) := by
  obtain ⟨members, rfl, found⟩ := shows
  simp only [entries, List.forall_mem_cons] at found
  obtain ⟨baseUrl, timeoutSecs, -⟩ := found
  refine Toml.ofJson_table form_lawful distinct.names ?_
  simp only [form, List.forall_mem_cons]
  refine ⟨?_, ?_, List.forall_mem_nil _⟩
  · exact Toml.fills_of_entry (fun _ _ => rfl) (fun _ => rfl) baseUrl (by rintro _ ⟨⟩; rfl) nofun rfl
  · exact Toml.fills_of_entry (fun _ _ => rfl) (fun _ => rfl) timeoutSecs (by rintro _ ⟨⟩; rfl) nofun
      rfl

theorem ServiceSettings.ofJson_of_shows (shows : table.Shows absent service.entries) :
    ofJson table.toJson = .ok (service.leavingOut absent) := by
  obtain ⟨members, rfl, found⟩ := shows
  simp only [entries, List.forall_mem_cons] at found
  obtain ⟨bindAddress, httpPort, staticDir, -⟩ := found
  refine Toml.ofJson_table form_lawful distinct.names ?_
  simp only [form, List.forall_mem_cons]
  refine ⟨?_, ?_, ?_, List.forall_mem_nil _⟩
  · exact Toml.fills_of_entry (fun _ _ => rfl) (fun _ => rfl) bindAddress (by rintro _ ⟨⟩; rfl) nofun
      rfl
  · exact Toml.fills_of_entry (fun _ _ => rfl) (fun _ => rfl) httpPort (by rintro _ ⟨⟩; rfl) nofun rfl
  · refine Toml.fills_of_entry (fun _ _ => rfl) (fun _ => rfl) staticDir ?_ ?_ rfl
    · intro scalar set
      obtain ⟨dir, given, rfl⟩ := Option.map_eq_some_iff.mp set
      rw [given]
      rfl
    · intro unset
      exact Option.map_eq_none_iff.mp unset

theorem PollingSettings.ofJson_of_shows (shows : table.Shows absent polling.entries) :
    ofJson table.toJson = .ok (polling.leavingOut absent) := by
  obtain ⟨members, rfl, found⟩ := shows
  simp only [entries, List.forall_mem_cons] at found
  obtain ⟨ptpStatusSecs, remoteSourcesSecs, -⟩ := found
  refine Toml.ofJson_table form_lawful distinct.names ?_
  simp only [form, List.forall_mem_cons]
  refine ⟨?_, ?_, List.forall_mem_nil _⟩
  · exact Toml.fills_of_entry (fun _ _ => rfl) (fun _ => rfl) ptpStatusSecs (by rintro _ ⟨⟩; rfl) nofun
      rfl
  · exact Toml.fills_of_entry (fun _ _ => rfl) (fun _ => rfl) remoteSourcesSecs (by rintro _ ⟨⟩; rfl)
      nofun rfl

theorem CalculatorSettings.ofJson_of_shows (shows : table.Shows absent calculator.entries) :
    ofJson table.toJson = .ok (calculator.leavingOut absent) := by
  obtain ⟨members, rfl, found⟩ := shows
  simp only [entries, List.forall_mem_cons] at found
  obtain ⟨ratePolicy, maxPacketSize, -⟩ := found
  refine Toml.ofJson_table form_lawful distinct.names ?_
  simp only [form, List.forall_mem_cons]
  refine ⟨?_, ?_, List.forall_mem_nil _⟩
  · exact Toml.fills_of_entry (fun _ _ => rfl) (fun _ => rfl) ratePolicy (by rintro _ ⟨⟩; rfl) nofun rfl
  · exact Toml.fills_of_entry (fun _ _ => rfl) (fun _ => rfl) maxPacketSize (by rintro _ ⟨⟩; rfl) nofun
      rfl

end Sections

namespace ConsoleSettings

/-! ## Reading documents -/

section Documents
variable {settings : ConsoleSettings} {omission : Omission} {members : List (String × Toml)}
  {name : String} {entries : List (String × Option Toml.Scalar)}
  (distinct : (Toml.table members).Distinct)
include distinct

theorem shows_of_mem (part : HasPart omission members (name, entries)) {table : Toml}
    (among : (name, table) ∈ members) : table.Shows (omission.keys name) entries := by
  have found := lookup_of_nodup among distinct.names
  rw [HasPart] at part
  split at part
  · rw [found] at part
    cases part
  · obtain ⟨_, same, shows⟩ := part
    rw [found] at same
    cases same
    exact shows

theorem fills_of_part (part : HasPart omission members (name, entries)) {α : Type} [Wire α]
    {get : ConsoleSettings → α} {set : ConsoleSettings → α → ConsoleSettings} {given : α}
    (get_set : ∀ record value, get (set record value) = value)
    (set_get : ∀ record, set record (get record) = record)
    (reads : ∀ table : Toml, table.Distinct → table.Shows (omission.keys name) entries →
      ofJson table.toJson = .ok given) {value : ConsoleSettings}
    (of_part : get value = orDefault omission.sections name given (get default)) :
    Record.Fills (Slot.defaulted name get set) default value
      ((members.lookup name).map Toml.toJson) := by
  rw [HasPart] at part
  refine Toml.fills_of_orDefault get_set set_get ?_ ?_ of_part
  · intro gone
    rw [if_pos gone] at part
    exact part
  · intro stays
    rw [if_neg stays] at part
    obtain ⟨table, found, shows⟩ := part
    exact .inl ⟨table, found, reads table (distinct.under found) shows⟩

end Documents

variable {settings : ConsoleSettings} {omission : Omission} {document : Toml}

/-- A document that spells settings already has the shape that its readers expect. -/
theorem normalized_of_spells (distinct : document.Distinct) (spells : settings.Spells omission document) :
    normalized document = document := by
  obtain ⟨members, rfl, parts⟩ := spells
  simp only [spelling, List.forall_mem_cons] at parts
  obtain ⟨daemon, service, polling, calculator, -⟩ := parts
  have clipped {name : String} {entries : List (String × Option Toml.Scalar)} {count : Nat}
      (part : HasPart omission members (name, entries)) :
      (Toml.table members).adjust name (Toml.clip count) = .table members := by
    refine Toml.adjust_eq_self ?_
    intro table among
    obtain ⟨inner, rfl, -⟩ := shows_of_mem distinct part among
    rfl
  rw [normalized, clipped daemon, clipped service, clipped polling]
  refine Toml.adjust_eq_self ?_
  intro table among
  obtain ⟨inner, rfl, found⟩ := shows_of_mem distinct calculator among
  have named := (distinct.under (lookup_of_nodup among distinct.names)).names
  have worded : (Toml.table inner).adjust "rate_policy" Toml.word = .table inner := by
    refine Toml.adjust_eq_self ?_
    intro policy held
    have spelt := found ("rate_policy", _) List.mem_cons_self
    rw [lookup_of_nodup held named, orDefault] at spelt
    split at spelt
    · cases spelt
    · cases spelt
      rfl
  rw [worded]
  rfl

theorem ofJson_of_spells (distinct : document.Distinct) (spells : settings.Spells omission document) :
    form.ofJson document.toJson = .ok (settings.leavingOut omission) := by
  obtain ⟨members, rfl, parts⟩ := spells
  simp only [spelling, List.forall_mem_cons] at parts
  obtain ⟨daemon, service, polling, calculator, -⟩ := parts
  refine Toml.ofJson_table form_lawful distinct.names ?_
  simp only [form, List.forall_mem_cons]
  refine ⟨?_, ?_, ?_, ?_, List.forall_mem_nil _⟩
  · exact fills_of_part distinct daemon (fun _ _ => rfl) (fun _ => rfl)
      (fun _ => DaemonLink.ofJson_of_shows) rfl
  · exact fills_of_part distinct service (fun _ _ => rfl) (fun _ => rfl)
      (fun _ => ServiceSettings.ofJson_of_shows) rfl
  · exact fills_of_part distinct polling (fun _ _ => rfl) (fun _ => rfl)
      (fun _ => PollingSettings.ofJson_of_shows) rfl
  · exact fills_of_part distinct calculator (fun _ _ => rfl) (fun _ => rfl)
      (fun _ => CalculatorSettings.ofJson_of_shows) rfl

theorem ofText_of_spells {text : String} (read : Toml.read? text = some document)
    (spells : settings.Spells omission document) : ofText text = .ok (settings.leavingOut omission) := by
  obtain ⟨-, -, distinct⟩ := Toml.read?_distinct read
  simp only [ofText, read, normalized_of_spells distinct spells, ofJson_of_spells distinct spells]

/-! ## Sections that spell settings -/

def keptSections (settings : ConsoleSettings) (omission : Omission) : List Toml.Section :=
  (settings.sections.filter fun part => part.name ∉ omission.sections).map fun part =>
    { part with entries := part.entries.filter fun entry => entry.1 ∉ omission.keys part.name }

theorem lookup_keptSections (settings : ConsoleSettings) (omission : Omission) (name : String) :
    ((settings.keptSections omission).map fun part => (part.name, Toml.table part.members)).lookup name =
      if name ∈ omission.sections then none
      else ((settings.sections.map fun part => (part.name, part.entries)).lookup name).map fun entries =>
        .table ((entries.filter fun entry => entry.1 ∉ omission.keys name).map fun (key, value) =>
          (key, .scalar value)) := by
  have pairs : ((settings.keptSections omission).map fun part =>
        (part.name, Toml.table part.members)) =
      ((settings.sections.map fun part => (part.name, part.entries)).filter fun member =>
          decide (member.1 ∉ omission.sections)).map fun (other, entries) =>
        (other, Toml.table ((entries.filter fun entry => entry.1 ∉ omission.keys other).map
          fun (key, value) => (key, .scalar value))) := by
    simp [keptSections, List.filter_map, Function.comp_def, Toml.Section.members]
  rw [pairs, lookup_map fun other (entries : List (String × Toml.Scalar)) =>
      Toml.table ((entries.filter fun entry => entry.1 ∉ omission.keys other).map
        fun (key, value) => (key, .scalar value)),
    lookup_filter fun other => decide (other ∉ omission.sections)]
  by_cases gone : name ∈ omission.sections
  · simp [gone]
  · simp [gone]

/-- The sections hold the entries of the spelling. -/
theorem lookup_sections (settings : ConsoleSettings) :
    ∀ part ∈ settings.spelling, ∃ entries : List (String × Toml.Scalar),
      (settings.sections.map fun part => (part.name, part.entries)).lookup part.1 = some entries ∧
        ∀ entry ∈ part.2, entries.lookup entry.1 = entry.2 := by
  simp only [spelling, List.forall_mem_cons]
  refine ⟨⟨_, rfl, ?_⟩, ⟨_, rfl, ?_⟩, ⟨_, rfl, ?_⟩, ⟨_, rfl, ?_⟩, List.forall_mem_nil _⟩
  · simp only [DaemonLink.entries, List.forall_mem_cons]
    exact ⟨rfl, rfl, List.forall_mem_nil _⟩
  · simp only [ServiceSettings.entries, List.forall_mem_cons]
    refine ⟨rfl, rfl, ?_, List.forall_mem_nil _⟩
    cases settings.service.staticDir <;> rfl
  · simp only [PollingSettings.entries, List.forall_mem_cons]
    exact ⟨rfl, rfl, List.forall_mem_nil _⟩
  · simp only [CalculatorSettings.entries, List.forall_mem_cons]
    exact ⟨rfl, rfl, List.forall_mem_nil _⟩

theorem spells_keptSections (settings : ConsoleSettings) (omission : Omission) :
    settings.Spells omission (Toml.ofSections (settings.keptSections omission)) := by
  refine ⟨_, rfl, ?_⟩
  rintro ⟨name, shown⟩ member
  obtain ⟨entries, found, spelt⟩ := settings.lookup_sections _ member
  rw [HasPart, lookup_keptSections]
  split
  · rfl
  · refine ⟨_, by rw [found]; rfl, _, rfl, ?_⟩
    intro entry among
    have kept := lookup_filter (fun key => decide (key ∉ omission.keys name)) entry.1 entries
    rw [lookup_map fun _ => Toml.scalar, kept, spelt entry among]
    by_cases gone : entry.1 ∈ omission.keys name <;> simp [orDefault, gone]

end ConsoleSettings

end NetAudio
