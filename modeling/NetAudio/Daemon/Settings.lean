import NetAudio.Clock

/-!
# Daemon settings

The settings a daemon serves, the part of them that a settings edit replaces, and the PTP settings,
which are edited on their own.
-/

set_option autoImplicit false

namespace NetAudio

/-- All settings of a daemon. -/
structure DaemonSettings where
  httpPort : UInt16
  rtspPort : UInt16
  logSeverity : Int32
  playoutDelay : UInt32
  ticFrameSize : UInt32
  maxTicFrameSize : UInt32
  sampleRate : UInt32
  rtpMcastBase : String
  rtpPort : UInt16
  ptpDomain : UInt8
  ptpDscp : UInt8
  sapMcastAddr : String
  sapInterval : UInt32
  mdnsEnabled : Bool
  syslogProto : String
  syslogServer : String
  statusFile : String
  interfaceName : String
  macAddr : String
  ipAddr : String
  nodeId : String
  customNodeId : String
  autoSinksUpdate : Bool
  deriving DecidableEq, Repr

def DaemonSettings.blank : DaemonSettings where
  httpPort := 0
  rtspPort := 0
  logSeverity := 0
  playoutDelay := 0
  ticFrameSize := 0
  maxTicFrameSize := 0
  sampleRate := 0
  rtpMcastBase := ""
  rtpPort := 0
  ptpDomain := 0
  ptpDscp := 0
  sapMcastAddr := ""
  sapInterval := 0
  mdnsEnabled := false
  syslogProto := ""
  syslogServer := ""
  statusFile := ""
  interfaceName := ""
  macAddr := ""
  ipAddr := ""
  nodeId := ""
  customNodeId := ""
  autoSinksUpdate := false

/-- The settings that an edit may change.  Network identity and PTP are not among them. -/
structure SettingsEdit where
  logSeverity : Int32
  syslogProto : String
  syslogServer : String
  rtpMcastBase : String
  rtpPort : UInt16
  rtspPort : UInt16
  playoutDelay : UInt32
  ticFrameSize : UInt32
  sampleRate : UInt32
  maxTicFrameSize : UInt32
  sapMcastAddr : String
  sapInterval : UInt32
  mdnsEnabled : Bool
  customNodeId : String
  autoSinksUpdate : Bool
  deriving DecidableEq, Repr

structure PtpSettings where
  domain : UInt8
  dscp : UInt8
  deriving DecidableEq, Repr

namespace DaemonSettings

def toEdit (settings : DaemonSettings) : SettingsEdit where
  logSeverity := settings.logSeverity
  syslogProto := settings.syslogProto
  syslogServer := settings.syslogServer
  rtpMcastBase := settings.rtpMcastBase
  rtpPort := settings.rtpPort
  rtspPort := settings.rtspPort
  playoutDelay := settings.playoutDelay
  ticFrameSize := settings.ticFrameSize
  sampleRate := settings.sampleRate
  maxTicFrameSize := settings.maxTicFrameSize
  sapMcastAddr := settings.sapMcastAddr
  sapInterval := settings.sapInterval
  mdnsEnabled := settings.mdnsEnabled
  customNodeId := settings.customNodeId
  autoSinksUpdate := settings.autoSinksUpdate

def apply (settings : DaemonSettings) (edit : SettingsEdit) : DaemonSettings :=
  { settings with
    logSeverity := edit.logSeverity
    syslogProto := edit.syslogProto
    syslogServer := edit.syslogServer
    rtpMcastBase := edit.rtpMcastBase
    rtpPort := edit.rtpPort
    rtspPort := edit.rtspPort
    playoutDelay := edit.playoutDelay
    ticFrameSize := edit.ticFrameSize
    sampleRate := edit.sampleRate
    maxTicFrameSize := edit.maxTicFrameSize
    sapMcastAddr := edit.sapMcastAddr
    sapInterval := edit.sapInterval
    mdnsEnabled := edit.mdnsEnabled
    customNodeId := edit.customNodeId
    autoSinksUpdate := edit.autoSinksUpdate }

def ptp (settings : DaemonSettings) : PtpSettings where
  domain := settings.ptpDomain
  dscp := settings.ptpDscp

def withPtp (settings : DaemonSettings) (ptp : PtpSettings) : DaemonSettings :=
  { settings with ptpDomain := ptp.domain, ptpDscp := ptp.dscp }

/-- The clock that a daemon with these settings runs at. -/
def clock (settings : DaemonSettings) (policy : RatePolicy) : Except CalculatorError Clock :=
  Clock.resolve settings.sampleRate settings.ticFrameSize policy

end DaemonSettings

end NetAudio
