import NetAudio.Proofs.Json.Tolerance
import NetAudio.Proofs.Wire.Documents

/-!
# Which keys a record needs

Every record that is exchanged with the daemon names the keys that it can do without.  An object in any
order and with foreign keys is read as the record with the default under those of them that it leaves
out; without any other key, with a key twice or with `null` under a key it is refused.
-/

set_option autoImplicit false

namespace NetAudio

open Json

/-! ## Records without some of their keys -/

def DaemonSettings.leavingOut (absent : List String) (settings : DaemonSettings) : DaemonSettings where
  httpPort := orDefault absent "http_port" settings.httpPort 0
  rtspPort := orDefault absent "rtsp_port" settings.rtspPort 0
  logSeverity := orDefault absent "log_severity" settings.logSeverity 0
  playoutDelay := orDefault absent "playout_delay" settings.playoutDelay 0
  ticFrameSize := orDefault absent "tic_frame_size_at_1fs" settings.ticFrameSize 0
  maxTicFrameSize := orDefault absent "max_tic_frame_size" settings.maxTicFrameSize 0
  sampleRate := orDefault absent "sample_rate" settings.sampleRate 0
  rtpMcastBase := orDefault absent "rtp_mcast_base" settings.rtpMcastBase ""
  rtpPort := orDefault absent "rtp_port" settings.rtpPort 0
  ptpDomain := orDefault absent "ptp_domain" settings.ptpDomain 0
  ptpDscp := orDefault absent "ptp_dscp" settings.ptpDscp 0
  sapMcastAddr := orDefault absent "sap_mcast_addr" settings.sapMcastAddr ""
  sapInterval := orDefault absent "sap_interval" settings.sapInterval 0
  mdnsEnabled := orDefault absent "mdns_enabled" settings.mdnsEnabled false
  syslogProto := orDefault absent "syslog_proto" settings.syslogProto ""
  syslogServer := orDefault absent "syslog_server" settings.syslogServer ""
  statusFile := orDefault absent "status_file" settings.statusFile ""
  interfaceName := orDefault absent "interface_name" settings.interfaceName ""
  macAddr := orDefault absent "mac_addr" settings.macAddr ""
  ipAddr := orDefault absent "ip_addr" settings.ipAddr ""
  nodeId := orDefault absent "node_id" settings.nodeId ""
  customNodeId := orDefault absent "custom_node_id" settings.customNodeId ""
  autoSinksUpdate := orDefault absent "auto_sinks_update" settings.autoSinksUpdate false

def SinkFlags.leavingOut (absent : List String) (flags : SinkFlags) : SinkFlags where
  rtpSeqIdError := orDefault absent "rtp_seq_id_error" flags.rtpSeqIdError false
  rtpSsrcError := orDefault absent "rtp_ssrc_error" flags.rtpSsrcError false
  rtpPayloadTypeError := orDefault absent "rtp_payload_type_error" flags.rtpPayloadTypeError false
  rtpSacError := orDefault absent "rtp_sac_error" flags.rtpSacError false
  receivingRtpPacket := orDefault absent "receiving_rtp_packet" flags.receivingRtpPacket false
  someMuted := orDefault absent "_some_muted" flags.someMuted false
  allMuted := orDefault absent "_all_muted" flags.allMuted false
  muted := orDefault absent "_muted" flags.muted false

def Source.leavingOut (absent : List String) (source : Source) : Source :=
  { source with
    id := orDefault absent "id" source.id 0
    address := orDefault absent "address" source.address "" }

def Sink.leavingOut (absent : List String) (sink : Sink) : Sink :=
  { sink with id := orDefault absent "id" sink.id 0 }

def SourceDraft.leavingOut (absent : List String) (draft : SourceDraft) : SourceDraft :=
  { draft with address := orDefault absent "address" draft.address "" }

def SinkStatus.leavingOut (absent : List String) (status : SinkStatus) : SinkStatus :=
  { status with minTime := orDefault absent "sink_min_time" status.minTime 0 }

def RemoteSource.leavingOut (absent : List String) (remote : RemoteSource) : RemoteSource :=
  { remote with
    domain := orDefault absent "domain" remote.domain ""
    lastSeen := orDefault absent "last_seen" remote.lastSeen 0
    announcePeriod := orDefault absent "announce_period" remote.announcePeriod 0 }

def StreamList.leavingOut (absent : List String) (streams : StreamList) : StreamList where
  sources := orDefault absent "sources" streams.sources []
  sinks := orDefault absent "sinks" streams.sinks []

/-! ## All records -/

inductive RecordType where
  | settings
  | settingsEdit
  | version
  | ptpSettings
  | ptpStatus
  | source
  | sink
  | sinkFlags
  | sinkStatus
  | remoteSource
  | sourceList
  | sinkList
  | streamList
  | remoteSourceList
  | sourceDraft
  | sinkDraft
  deriving DecidableEq, Repr

namespace RecordType

@[reducible] def document : RecordType → DocumentType
  | .settings => .settings
  | .settingsEdit => .settingsEdit
  | .version => .version
  | .ptpSettings => .ptpSettings
  | .ptpStatus => .ptpStatus
  | .source => .source
  | .sink => .sink
  | .sinkFlags => .sinkFlags
  | .sinkStatus => .sinkStatus
  | .remoteSource => .remoteSource
  | .sourceList => .sourceList
  | .sinkList => .sinkList
  | .streamList => .streamList
  | .remoteSourceList => .remoteSourceList
  | .sourceDraft => .sourceDraft
  | .sinkDraft => .sinkDraft

abbrev Value (type : RecordType) : Type := type.document.Value

def form : (type : RecordType) → Record type.Value
  | .settings => DaemonSettings.form
  | .settingsEdit => SettingsEdit.form
  | .version => Version.form
  | .ptpSettings => PtpSettings.form
  | .ptpStatus => PtpStatus.form
  | .source => Source.form
  | .sink => Sink.form
  | .sinkFlags => SinkFlags.form
  | .sinkStatus => SinkStatus.form
  | .remoteSource => RemoteSource.form
  | .sourceList => SourceList.form
  | .sinkList => SinkList.form
  | .streamList => StreamList.form
  | .remoteSourceList => RemoteSourceList.form
  | .sourceDraft => SourceDraft.form
  | .sinkDraft => SinkDraft.form

def keys (type : RecordType) : List String := type.form.slots.map (·.name)

def defaulted : RecordType → List String
  | .settings => keys .settings
  | .sinkFlags => keys .sinkFlags
  | .source => ["id", "address"]
  | .sink => ["id"]
  | .sourceDraft => ["address"]
  | .sinkStatus => ["sink_min_time"]
  | .remoteSource => ["domain", "last_seen", "announce_period"]
  | .streamList => ["sources", "sinks"]
  | _ => []

/-- The record with the default under the keys in `absent`, as far as they have one. -/
def leavingOut (absent : List String) : (type : RecordType) → type.Value → type.Value
  | .settings => DaemonSettings.leavingOut absent
  | .sinkFlags => SinkFlags.leavingOut absent
  | .source => Source.leavingOut absent
  | .sink => Sink.leavingOut absent
  | .sourceDraft => SourceDraft.leavingOut absent
  | .sinkStatus => SinkStatus.leavingOut absent
  | .remoteSource => RemoteSource.leavingOut absent
  | .streamList => StreamList.leavingOut absent
  | .settingsEdit | .version | .ptpSettings | .ptpStatus => id
  | .sourceList | .sinkList | .remoteSourceList | .sinkDraft => id

theorem ofJson_eq (type : RecordType) (doc : Json) :
    (ofJson doc : Except Fault type.Value) = type.form.ofJson doc := by
  cases type <;> rfl

theorem toJson_eq (type : RecordType) (value : type.Value) :
    toJson value = .object (type.form.written value) := by
  cases type <;> rfl

theorem form_lawful : ∀ type : RecordType, type.form.Lawful
  | .settings => DaemonSettings.form_lawful
  | .settingsEdit => SettingsEdit.form_lawful
  | .version => Version.form_lawful
  | .ptpSettings => PtpSettings.form_lawful
  | .ptpStatus => PtpStatus.form_lawful
  | .source => Source.form_lawful
  | .sink => Sink.form_lawful
  | .sinkFlags => SinkFlags.form_lawful
  | .sinkStatus => SinkStatus.form_lawful
  | .remoteSource => RemoteSource.form_lawful
  | .sourceList => SourceList.form_lawful
  | .sinkList => SinkList.form_lawful
  | .streamList => StreamList.form_lawful
  | .remoteSourceList => RemoteSourceList.form_lawful
  | .sourceDraft => SourceDraft.form_lawful
  | .sinkDraft => SinkDraft.form_lawful

/-- The slots that may be left out are those under the defaulted keys. -/
theorem optional_iff (type : RecordType) {slot : Slot type.Value} (member : slot ∈ type.form.slots) :
    slot.optional = true ↔ slot.name ∈ type.defaulted := by
  have all : type.form.slots.all
      (fun slot => slot.optional == type.defaulted.contains slot.name) = true := by
    cases type <;> rfl
  have same := List.all_eq_true.mp all slot member
  rw [beq_iff_eq] at same
  rw [same, List.contains_iff_mem]

/-- No record has `null` under a key. -/
theorem not_holds_null (type : RecordType) {slot : Slot type.Value} (member : slot ∈ type.form.slots)
    (value : type.Value) : ¬ slot.Holds .null value := by
  have all : type.form.slots.all (fun slot => !(slot.read .null value).isOk) = true := by
    cases type <;> rfl
  intro holds
  have refused := List.all_eq_true.mp all slot member
  rw [holds] at refused
  cases refused

section Slots

attribute [local simp] DaemonSettings.form SettingsEdit.form Version.form PtpSettings.form
  PtpStatus.form SinkFlags.form SinkStatus.form RemoteSource.form Source.form SourceDraft.form Sink.form
  SinkDraft.form SourceList.form SinkList.form StreamList.form RemoteSourceList.form

attribute [local simp] DaemonSettings.leavingOut SinkFlags.leavingOut Source.leavingOut Sink.leavingOut
  SourceDraft.leavingOut SinkStatus.leavingOut RemoteSource.leavingOut StreamList.leavingOut

/-- A record without some of its defaulted keys is blank in their slots and the same in all others. -/
theorem leavesOut (type : RecordType) {absent : List String}
    (only : ∀ key ∈ absent, key ∈ type.defaulted) (value : type.Value) :
    type.form.LeavesOut absent value (type.leavingOut absent value) := by
  have stays : ∀ key, key ∉ type.defaulted → ∀ given default : Json,
      orDefault absent key given default = given := by
    intro key needed given default
    apply orDefault_of_not_mem
    intro gone
    exact needed (only key gone)
  cases type <;>
    simp [Record.LeavesOut, form, leavingOut, defaulted, stays, toJson_orDefault,
      DaemonSettings.blank, SinkFlags.blank, SinkStatus.blank, SourceDraft.withDefaults]

end Slots

def Refuses (type : RecordType) (members : List (String × Json)) : Prop :=
  ∃ fault, (ofJson (.object members) : Except Fault type.Value) = .error fault

/-- How far the objects that a record is read from may differ from those that it is written as.  The
documents under foreign keys may be any that are JSON; the text of an object is read like the object. -/
structure ReadsTolerantly (type : RecordType) : Prop where
  writes : ∀ value : type.Value, ∃ own, toJson value = .object own ∧ own.map (·.1) = type.keys
  distinct : type.keys.Nodup
  tolerates : ∀ (value : type.Value) (absent : List String) (own others members : List (String × Json)),
    toJson value = .object own → (∀ key ∈ absent, key ∈ type.defaulted) →
      (∀ other ∈ others, other.1 ∉ type.keys ∧ other.2.intact = true) →
      members.Perm (own.filter (fun member => member.1 ∉ absent) ++ others) →
      ofJson (.object members) = .ok (type.leavingOut absent value) ∧
        ((∀ other ∈ others, other.2.Legible) →
          ofJson (readWhole (object members).write) = .ok (type.leavingOut absent value))
  needs : ∀ key ∈ type.keys, key ∉ type.defaulted → ∀ members : List (String × Json),
    key ∉ members.map (·.1) → type.Refuses members
  once : ∀ key ∈ type.keys, ∀ members : List (String × Json),
    2 ≤ (members.map (·.1)).count key → type.Refuses members
  solid : ∀ key ∈ type.keys, ∀ members : List (String × Json),
    (key, .null) ∈ members → type.Refuses members

/-- Every record is read from an object with its keys in any order, foreign keys among them and any of
the defaulted keys left out, and then has the defaults under just these.  An object without another key,
with a key twice or with `null` under a key is refused, whatever else it holds. -/
theorem records_read_tolerantly (type : RecordType) : type.ReadsTolerantly where
  writes value := ⟨_, toJson_eq type value, Record.names_written value⟩
  distinct := (form_lawful type).names
  tolerates := by
    intro value absent own others members written only foreign given
    cases (toJson_eq type value).symm.trans written
    have read : ofJson (.object members) = .ok (type.leavingOut absent value) := by
      rw [ofJson_eq]
      apply Record.ofJson_of_given foreign given (form_lawful type)
      · intro slot member gone
        exact (optional_iff type member).mpr (only slot.name gone)
      · exact leavesOut type only value
    refine ⟨read, ?_⟩
    intro legible
    have whole : (object members).Legible := by
      apply Legible.object
      intro member among
      rcases List.mem_append.mp (given.mem_iff.mp among) with kept | other
      · exact Record.legible_of_mem_written (form_lawful type) (List.mem_filter.mp kept).1
      · exact legible member other
    rw [readWhole_write whole, read]
  needs := by
    intro key listed needed members missing
    obtain ⟨slot, member, rfl⟩ := List.mem_map.mp listed
    have required : slot.optional = false := by
      rw [← Bool.not_eq_true, optional_iff type member]
      exact needed
    unfold Refuses
    rw [ofJson_eq]
    exact Record.refused_of_missing (form_lawful type) member required missing
  once := by
    intro key listed members repeated
    obtain ⟨slot, member, rfl⟩ := List.mem_map.mp listed
    unfold Refuses
    rw [ofJson_eq]
    exact Record.refused_of_repeated (form_lawful type) member repeated
  solid := by
    intro key listed members void
    obtain ⟨slot, member, rfl⟩ := List.mem_map.mp listed
    unfold Refuses
    rw [ofJson_eq]
    exact Record.refused_of_null (form_lawful type) member (not_holds_null type member) void

/-- An announcement without times and with a key of its own is read; one without a name is not. -/
theorem remote_source_without_times :
    ofJson (.object
      [("rank", .array [.integer 1]), ("sdp", .string "v=0"), ("address", .string "10.0.0.7"),
        ("domain", .string "local"), ("name", .string "Stage"), ("id", .string "7"),
        ("source", .string "SAP")]) =
      .ok { source := "SAP", id := "7", name := "Stage", domain := "local", address := "10.0.0.7"
            sdp := "v=0", lastSeen := 0, announcePeriod := 0 : RemoteSource } ∧
    RecordType.remoteSource.Refuses [("source", .string "SAP"), ("id", .string "7")] := by
  let heard : RemoteSource :=
    { source := "SAP", id := "7", name := "Stage", domain := "local", address := "10.0.0.7"
      sdp := "v=0", lastSeen := 12, announcePeriod := 30 }
  constructor
  · refine ((records_read_tolerantly .remoteSource).tolerates heard ["last_seen", "announce_period"]
      (RemoteSource.form.written heard) [("rank", .array [.integer 1])] _ rfl ?_ ?_ ?_).1
    · decide
    · decide
    · exact List.reverse_perm (
        [("source", .string "SAP"), ("id", .string "7"), ("name", .string "Stage"),
          ("domain", .string "local"), ("address", .string "10.0.0.7"), ("sdp", .string "v=0"),
          ("rank", .array [.integer 1])] : List (String × Json))
  · apply (records_read_tolerantly .remoteSource).needs "name"
    · decide
    · decide
    · decide

end RecordType

end NetAudio
