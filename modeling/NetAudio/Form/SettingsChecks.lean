import NetAudio.Daemon.Settings
import NetAudio.Form.Validation
import NetAudio.Net.Address
import NetAudio.Text.Decimal

/-!
# Checks of settings edits

The edits of the daemon's settings and of its PTP settings are checked like drafts: one pass, every
issue at once.  The syslog server counts only where syslog goes over the network.
-/

set_option autoImplicit false

namespace NetAudio

namespace SettingsEdit

/-- Packet times on offer, in samples at the base rate. -/
def ticFrameSizes : List UInt32 := [48, 64, 96, 128, 192]

def sampleRates : List UInt32 := [44100, 48000, 96000, 192000, 384000]

/-- Where the daemon's log may go: nowhere, to the local log, to a remote server. -/
def syslogProtocols : List String := ["none", "", "udp"]

/-- Whether a text is a host, a colon and a port number.  The last colon counts; the host may be
any text but the empty one. -/
def isHostPort (text : String) : Bool :=
  match Text.cutLast? ':' text.toList with
  | none => false
  | some (host, port) =>
    !host.isEmpty &&
      (match Decimal.readU16 (String.ofList port) with
       | .ok _ => true
       | .error _ => false)

def isNodeIdChar (c : Char) : Bool := c.isAlphanum || c = ' ' || c = '_'

/-- Whether a text may serve as a node id: 5 to 48 bytes of letters, digits, spaces and
underscores. -/
def isNodeId (text : String) : Bool :=
  5 ≤ text.utf8ByteSize && text.utf8ByteSize ≤ 48 && text.toList.all isNodeIdChar

def isMulticast (text : String) : Bool := (Ipv4.ofText? text).any Ipv4.isMulticast

/-- A multicast address, which must be given. -/
def unlessMulticast (text : String) : Option Issue :=
  if text.isEmpty then some .required else Issue.unlessFormed (isMulticast text)

def checkSyslogServer (edit : SettingsEdit) : Check :=
  (.syslogServer,
    if edit.syslogProto ≠ "udp" then none
    else if edit.syslogServer.isEmpty then some .required
    else Issue.unlessFormed (isHostPort edit.syslogServer))

def unlessPort (port : UInt16) : Option Issue := Issue.unlessIn port.toNat 1024 65535

def validate (edit : SettingsEdit) : Validation where
  checks :=
    [(.logSeverity, Issue.unlessOffered (1 ≤ edit.logSeverity.toInt && edit.logSeverity.toInt ≤ 5)),
      (.syslogProto, Issue.unlessOffered (syslogProtocols.contains edit.syslogProto)),
      edit.checkSyslogServer,
      (.rtpMcastBase, unlessMulticast edit.rtpMcastBase),
      (.rtpPort, unlessPort edit.rtpPort),
      (.rtspPort, unlessPort edit.rtspPort),
      (.playoutDelay, Issue.unlessIn edit.playoutDelay.toNat 0 4000),
      (.ticFrameSize, Issue.unlessOffered (ticFrameSizes.contains edit.ticFrameSize)),
      (.sampleRate, Issue.unlessOffered (sampleRates.contains edit.sampleRate)),
      (.maxTicFrameSize, Issue.unlessIn edit.maxTicFrameSize.toNat 192 8192),
      (.sapMcastAddr, unlessMulticast edit.sapMcastAddr),
      (.sapInterval, Issue.unlessIn edit.sapInterval.toNat 0 255),
      -- Without an id of its own the daemon generates one.
      (.customNodeId, Issue.unlessFormed (edit.customNodeId.isEmpty || isNodeId edit.customNodeId))]

end SettingsEdit

namespace PtpSettings

def codepoints : List UInt8 := [56, 48, 46, 36, 34, 0]

def validate (settings : PtpSettings) : Validation where
  checks :=
    [(.domain, Issue.unlessIn settings.domain.toNat 0 127),
      (.dscp, Issue.unlessOffered (codepoints.contains settings.dscp))]

end PtpSettings

end NetAudio
