import NetAudio.Wire.Stream
import NetAudio.Daemon.Settings
import NetAudio.Daemon.Status

/-!
# JSON forms of the daemon's documents

Settings, reports, and the lists that the daemon wraps its streams and announcements in.
-/

set_option autoImplicit false

namespace NetAudio

open Json

def DaemonSettings.form : Record DaemonSettings where
  blank := .blank
  slots :=
    [.defaulted "http_port" (·.httpPort) ({ · with httpPort := · }),
      .defaulted "rtsp_port" (·.rtspPort) ({ · with rtspPort := · }),
      .defaulted "log_severity" (·.logSeverity) ({ · with logSeverity := · }),
      .defaulted "playout_delay" (·.playoutDelay) ({ · with playoutDelay := · }),
      .defaulted "tic_frame_size_at_1fs" (·.ticFrameSize) ({ · with ticFrameSize := · }),
      .defaulted "max_tic_frame_size" (·.maxTicFrameSize) ({ · with maxTicFrameSize := · }),
      .defaulted "sample_rate" (·.sampleRate) ({ · with sampleRate := · }),
      .defaulted "rtp_mcast_base" (·.rtpMcastBase) ({ · with rtpMcastBase := · }),
      .defaulted "rtp_port" (·.rtpPort) ({ · with rtpPort := · }),
      .defaulted "ptp_domain" (·.ptpDomain) ({ · with ptpDomain := · }),
      .defaulted "ptp_dscp" (·.ptpDscp) ({ · with ptpDscp := · }),
      .defaulted "sap_mcast_addr" (·.sapMcastAddr) ({ · with sapMcastAddr := · }),
      .defaulted "sap_interval" (·.sapInterval) ({ · with sapInterval := · }),
      .defaulted "mdns_enabled" (·.mdnsEnabled) ({ · with mdnsEnabled := · }),
      .defaulted "syslog_proto" (·.syslogProto) ({ · with syslogProto := · }),
      .defaulted "syslog_server" (·.syslogServer) ({ · with syslogServer := · }),
      .defaulted "status_file" (·.statusFile) ({ · with statusFile := · }),
      .defaulted "interface_name" (·.interfaceName) ({ · with interfaceName := · }),
      .defaulted "mac_addr" (·.macAddr) ({ · with macAddr := · }),
      .defaulted "ip_addr" (·.ipAddr) ({ · with ipAddr := · }),
      .defaulted "node_id" (·.nodeId) ({ · with nodeId := · }),
      .defaulted "custom_node_id" (·.customNodeId) ({ · with customNodeId := · }),
      .defaulted "auto_sinks_update" (·.autoSinksUpdate) ({ · with autoSinksUpdate := · })]

instance : Wire DaemonSettings := DaemonSettings.form.wire

def SettingsEdit.form : Record SettingsEdit where
  blank := DaemonSettings.blank.toEdit
  slots :=
    [.required "log_severity" (·.logSeverity) ({ · with logSeverity := · }),
      .required "syslog_proto" (·.syslogProto) ({ · with syslogProto := · }),
      .required "syslog_server" (·.syslogServer) ({ · with syslogServer := · }),
      .required "rtp_mcast_base" (·.rtpMcastBase) ({ · with rtpMcastBase := · }),
      .required "rtp_port" (·.rtpPort) ({ · with rtpPort := · }),
      .required "rtsp_port" (·.rtspPort) ({ · with rtspPort := · }),
      .required "playout_delay" (·.playoutDelay) ({ · with playoutDelay := · }),
      .required "tic_frame_size_at_1fs" (·.ticFrameSize) ({ · with ticFrameSize := · }),
      .required "sample_rate" (·.sampleRate) ({ · with sampleRate := · }),
      .required "max_tic_frame_size" (·.maxTicFrameSize) ({ · with maxTicFrameSize := · }),
      .required "sap_mcast_addr" (·.sapMcastAddr) ({ · with sapMcastAddr := · }),
      .required "sap_interval" (·.sapInterval) ({ · with sapInterval := · }),
      .required "mdns_enabled" (·.mdnsEnabled) ({ · with mdnsEnabled := · }),
      .required "custom_node_id" (·.customNodeId) ({ · with customNodeId := · }),
      .required "auto_sinks_update" (·.autoSinksUpdate) ({ · with autoSinksUpdate := · })]

instance : Wire SettingsEdit := SettingsEdit.form.wire

def Version.form : Record Version where
  blank := { version := "" }
  slots := [.required "version" (·.version) ({ · with version := · })]

instance : Wire Version := Version.form.wire

def PtpSettings.form : Record PtpSettings where
  blank := { domain := 0, dscp := 0 }
  slots :=
    [.required "domain" (·.domain) ({ · with domain := · }),
      .required "dscp" (·.dscp) ({ · with dscp := · })]

instance : Wire PtpSettings := PtpSettings.form.wire

def PtpStatus.form : Record PtpStatus where
  blank := .blank
  slots :=
    [.required "status" (·.status) ({ · with status := · }),
      .required "gmid" (·.gmid) ({ · with gmid := · }),
      .required "jitter" (·.jitter) ({ · with jitter := · })]

instance : Wire PtpStatus := PtpStatus.form.wire

def SinkFlags.form : Record SinkFlags where
  blank := .blank
  slots :=
    [.defaulted "rtp_seq_id_error" (·.rtpSeqIdError) ({ · with rtpSeqIdError := · }),
      .defaulted "rtp_ssrc_error" (·.rtpSsrcError) ({ · with rtpSsrcError := · }),
      .defaulted "rtp_payload_type_error" (·.rtpPayloadTypeError)
        ({ · with rtpPayloadTypeError := · }),
      .defaulted "rtp_sac_error" (·.rtpSacError) ({ · with rtpSacError := · }),
      .defaulted "receiving_rtp_packet" (·.receivingRtpPacket) ({ · with receivingRtpPacket := · }),
      .defaulted "_some_muted" (·.someMuted) ({ · with someMuted := · }),
      .defaulted "_all_muted" (·.allMuted) ({ · with allMuted := · }),
      .defaulted "_muted" (·.muted) ({ · with muted := · })]

instance : Wire SinkFlags := SinkFlags.form.wire

def SinkStatus.form : Record SinkStatus where
  blank := .blank
  slots :=
    [.required "sink_flags" (·.flags) ({ · with flags := · }),
      .defaulted "sink_min_time" (·.minTime) ({ · with minTime := · })]

instance : Wire SinkStatus := SinkStatus.form.wire

def RemoteSource.form : Record RemoteSource where
  blank :=
    { source := "", id := "", name := "", domain := "", address := "", sdp := "", lastSeen := 0
      announcePeriod := 0 }
  slots :=
    [.required "source" (·.source) ({ · with source := · }),
      .required "id" (·.id) ({ · with id := · }),
      .required "name" (·.name) ({ · with name := · }),
      .defaulted "domain" (·.domain) ({ · with domain := · }),
      .required "address" (·.address) ({ · with address := · }),
      .required "sdp" (·.sdp) ({ · with sdp := · }),
      .defaulted "last_seen" (·.lastSeen) ({ · with lastSeen := · }),
      .defaulted "announce_period" (·.announcePeriod) ({ · with announcePeriod := · })]

instance : Wire RemoteSource := RemoteSource.form.wire

/-! ## Lists -/

/-- All sources, as the daemon serves them. -/
structure SourceList where
  sources : List Source
  deriving DecidableEq, Repr

def SourceList.form : Record SourceList where
  blank := { sources := [] }
  slots := [.required "sources" (·.sources) ({ · with sources := · })]

instance : Wire SourceList := SourceList.form.wire

/-- All sinks, as the daemon serves them. -/
structure SinkList where
  sinks : List Sink
  deriving DecidableEq, Repr

def SinkList.form : Record SinkList where
  blank := { sinks := [] }
  slots := [.required "sinks" (·.sinks) ({ · with sinks := · })]

instance : Wire SinkList := SinkList.form.wire

def StreamList.form : Record StreamList where
  blank := { sources := [], sinks := [] }
  slots :=
    [.defaulted "sources" (·.sources) ({ · with sources := · }),
      .defaulted "sinks" (·.sinks) ({ · with sinks := · })]

instance : Wire StreamList := StreamList.form.wire

/-- All announced sources, as the daemon serves them. -/
structure RemoteSourceList where
  remoteSources : List RemoteSource
  deriving DecidableEq, Repr

def RemoteSourceList.form : Record RemoteSourceList where
  blank := { remoteSources := [] }
  slots := [.required "remote_sources" (·.remoteSources) ({ · with remoteSources := · })]

instance : Wire RemoteSourceList := RemoteSourceList.form.wire

end NetAudio
