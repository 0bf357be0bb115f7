import NetAudio.Packet
import NetAudio.Url.Basic

/-!
# Console settings

Where the daemon is, what the console serves and where, how often it polls the daemon, and how it
calculates.  Every key has a default.
-/

set_option autoImplicit false

namespace NetAudio

/-- Where the daemon answers. -/
structure DaemonLink where
  baseUrl : String
  timeoutSecs : UInt64
  deriving DecidableEq, Repr

/-- Where the console listens, and the directory that it serves besides. -/
structure ServiceSettings where
  bindAddress : String
  httpPort : UInt16
  staticDir : Option String
  deriving DecidableEq, Repr

/-- The periods of the pollers. -/
structure PollingSettings where
  ptpStatusSecs : UInt64
  remoteSourcesSecs : UInt64
  deriving DecidableEq, Repr

structure CalculatorSettings where
  ratePolicy : RatePolicy
  /-- The bytes that the samples of one packet may take. -/
  maxPacketSize : UInt64
  deriving DecidableEq, Repr

structure ConsoleSettings where
  daemon : DaemonLink
  service : ServiceSettings
  polling : PollingSettings
  calculator : CalculatorSettings
  deriving DecidableEq, Repr

def DaemonLink.default : DaemonLink where
  baseUrl := "http://127.0.0.1:8080"
  timeoutSecs := 10

def ServiceSettings.default : ServiceSettings where
  bindAddress := "0.0.0.0"
  httpPort := 8081
  staticDir := none

def PollingSettings.default : PollingSettings where
  ptpStatusSecs := 5
  remoteSourcesSecs := 10

def CalculatorSettings.default : CalculatorSettings where
  ratePolicy := .reject
  maxPacketSize := defaultPacketBudget

namespace ConsoleSettings

def default : ConsoleSettings where
  daemon := .default
  service := .default
  polling := .default
  calculator := .default

/-- Refuses settings that the console cannot work with; the first fault in the order of the sections
is reported. -/
def check (settings : ConsoleSettings) : Except ConsoleError Unit := do
  if !Url.isAbsolute settings.daemon.baseUrl then
    throw (.settings ("daemon.base_url is not a URL: " ++ settings.daemon.baseUrl))
  if settings.daemon.timeoutSecs = 0 then
    throw (.settings "daemon.timeout_secs must be positive")
  if settings.polling.ptpStatusSecs = 0 ∨ settings.polling.remoteSourcesSecs = 0 then
    throw (.settings "polling periods must be positive")
  if settings.calculator.maxPacketSize = 0 then
    throw (.settings "calc.max_packet_size must be positive")

end ConsoleSettings

end NetAudio
