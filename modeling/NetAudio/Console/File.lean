import NetAudio.Toml.Basic
import NetAudio.Toml.Reader
import NetAudio.Toml.Writer
import NetAudio.Wire.Console

/-!
# The settings file

Settings are kept as TOML.  Sections and keys that the file leaves out have their defaults.  Integers
that TOML cannot hold cannot be saved.
-/

set_option autoImplicit false

namespace NetAudio.ConsoleSettings

open Json

/-! ## Text -/

def sections (settings : ConsoleSettings) : List Toml.Section :=
  let number (value : UInt64) : Toml.Scalar := .integer value.toNat
  [⟨"daemon",
      [("base_url", .string settings.daemon.baseUrl),
        ("timeout_secs", number settings.daemon.timeoutSecs)]⟩,
    ⟨"ui",
      [("bind_address", .string settings.service.bindAddress),
        ("http_port", .integer settings.service.httpPort.toNat)] ++
        settings.service.staticDir.toList.map fun dir => ("static_dir", .string dir)⟩,
    ⟨"polling",
      [("ptp_status_secs", number settings.polling.ptpStatusSecs),
        ("remote_sources_secs", number settings.polling.remoteSourcesSecs)]⟩,
    ⟨"calc",
      [("rate_policy", .string settings.calculator.ratePolicy.word),
        ("max_packet_size", number settings.calculator.maxPacketSize)]⟩]

def integers (settings : ConsoleSettings) : List UInt64 :=
  [settings.daemon.timeoutSecs, settings.polling.ptpStatusSecs, settings.polling.remoteSourcesSecs,
    settings.calculator.maxPacketSize]

def toText (settings : ConsoleSettings) : Except ConsoleError String :=
  if settings.integers.all fun value => Toml.holdsInteger value.toNat then
    .ok (Toml.write settings.sections)
  else .error .unwritable

/-- The document with every record in the shape that its reader expects. -/
def normalized (document : Toml) : Toml :=
  let calculator (value : Toml) : Toml :=
    ((value.adjust "rate_policy" Toml.word).adjustItem 0 Toml.word).clip
      CalculatorSettings.form.slots.length
  document
    |>.adjust "daemon" (Toml.clip DaemonLink.form.slots.length)
    |>.adjust "ui" (Toml.clip ServiceSettings.form.slots.length)
    |>.adjust "polling" (Toml.clip PollingSettings.form.slots.length)
    |>.adjust "calc" calculator

/-- The settings that a text spells, whether the console can work with them or not. -/
def ofText (text : String) : Except ConsoleError ConsoleSettings :=
  match Toml.read? text with
  | none => .error .unreadable
  | some document =>
    match form.ofJson (normalized document).toJson with
    | .ok settings => .ok settings
    | .error _ => .error .unreadable

/-! ## File -/

/-- An action on the file that settings are kept in: its text, if there is such a file. -/
abbrev FileAction := EStateM ConsoleError (Option String)

def load : FileAction ConsoleSettings := do
  match ← get with
  | none => throw .io
  | some text => do
    let settings ← ofExcept (ofText text)
    ofExcept settings.check
    return settings
where
  ofExcept {α : Type} : Except ConsoleError α → FileAction α
    | .ok value => return value
    | .error cause => throw cause

def loadOrDefault : FileAction ConsoleSettings := do
  if (← get).isSome then load else return default

/-- Writes the file, or leaves it as it is where the settings cannot be written. -/
def save (settings : ConsoleSettings) : FileAction Unit := do
  match settings.toText with
  | .ok text => set (some text)
  | .error cause => throw cause

/-! ## Place -/

def below (directory name : String) : String :=
  if directory.endsWith "/" then directory ++ name else directory ++ "/" ++ name

/-- Where the file is, given the user's home directory, that of the account and the directory for settings.
An empty home directory does not count, nor does a directory for settings that is not absolute. -/
def defaultPath (home accountHome : String) (settingsHome : Option String) : String :=
  let home := if home.isEmpty then accountHome else home
  let root := (settingsHome.filter (·.startsWith "/")).getD (below home ".config")
  below (below root "aes67-console") "console.toml"

end NetAudio.ConsoleSettings
