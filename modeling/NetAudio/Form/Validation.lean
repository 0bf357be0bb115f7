/-!
# Validations

A validation says which fields of an edit have an issue, and which.  It is made from a list of
checks, each for one field; of several issues of one field the first check's stands.  Issues are
listed in the order of the fields.
-/

set_option autoImplicit false

namespace NetAudio

/-- The fields that can have an issue, in the order in which they are listed. -/
inductive Field where
  | id
  | name
  | address
  | ttl
  | payloadType
  | dscp
  | maxSamplesPerPacket
  | channels
  | source
  | sdp
  | delay
  | logSeverity
  | syslogProto
  | syslogServer
  | rtpMcastBase
  | rtpPort
  | rtspPort
  | playoutDelay
  | ticFrameSize
  | sampleRate
  | maxTicFrameSize
  | sapMcastAddr
  | sapInterval
  | customNodeId
  | domain
  deriving DecidableEq, Repr

namespace Field

/-- All fields, in order. -/
def all : List Field :=
  [.id, .name, .address, .ttl, .payloadType, .dscp, .maxSamplesPerPacket, .channels, .source, .sdp,
    .delay, .logSeverity, .syslogProto, .syslogServer, .rtpMcastBase, .rtpPort, .rtspPort,
    .playoutDelay, .ticFrameSize, .sampleRate, .maxTicFrameSize, .sapMcastAddr, .sapInterval,
    .customNodeId, .domain]

def label : Field → String
  | .id => "id"
  | .name => "name"
  | .address => "address"
  | .ttl => "ttl"
  | .payloadType => "payload_type"
  | .dscp => "dscp"
  | .maxSamplesPerPacket => "max_samples_per_packet"
  | .channels => "channels"
  | .source => "source"
  | .sdp => "sdp"
  | .delay => "delay"
  | .logSeverity => "log_severity"
  | .syslogProto => "syslog_proto"
  | .syslogServer => "syslog_server"
  | .rtpMcastBase => "rtp_mcast_base"
  | .rtpPort => "rtp_port"
  | .rtspPort => "rtsp_port"
  | .playoutDelay => "playout_delay"
  | .ticFrameSize => "tic_frame_size_at_1fs"
  | .sampleRate => "sample_rate"
  | .maxTicFrameSize => "max_tic_frame_size"
  | .sapMcastAddr => "sap_mcast_addr"
  | .sapInterval => "sap_interval"
  | .customNodeId => "custom_node_id"
  | .domain => "domain"

end Field

/-- What is wrong with a field. -/
inductive Issue where
  /-- It is empty. -/
  | required
  | outOfRange (value min max : Nat)
  /-- Its text has not the expected form. -/
  | malformed
  /-- It is none of the choices on offer. -/
  | notOffered
  /-- It is above a limit that follows from the clock or the packet budget. -/
  | capacityExceeded (value limit : Nat)
  deriving DecidableEq, Repr

namespace Issue

def isCapacity : Issue → Bool
  | .capacityExceeded _ _ => true
  | _ => false

def text : Issue → String
  | .required => "required"
  | .outOfRange value min max => s!"{value} outside {min}..={max}"
  | .malformed => "malformed"
  | .notOffered => "not an offered choice"
  | .capacityExceeded value limit => s!"{value} exceeds limit {limit}"

/-! ## Checks -/

def unlessIn (value min max : Nat) : Option Issue :=
  if min ≤ value ∧ value ≤ max then none else some (.outOfRange value min max)

def unlessGiven (text : String) : Option Issue :=
  if text.isEmpty then some .required else none

def unlessOffered (offered : Bool) : Option Issue :=
  if offered then none else some .notOffered

def unlessFormed (formed : Bool) : Option Issue :=
  if formed then none else some .malformed

def ifAbove (value limit : Nat) : Option Issue :=
  if limit < value then some (.capacityExceeded value limit) else none

end Issue

abbrev Check := Field × Option Issue

/-- The outcome of a list of checks. -/
structure Validation where
  checks : List Check
  deriving DecidableEq, Repr

namespace Validation

/-- The first issue that a check found in the field. -/
def issue? (validation : Validation) (field : Field) : Option Issue :=
  validation.checks.findSome? fun (checked, issue) => if checked = field then issue else none

/-- The fields that have an issue, in order, each with its issue. -/
def errors (validation : Validation) : List (Field × Issue) :=
  Field.all.filterMap fun field => (validation.issue? field).map (field, ·)

def isValid (validation : Validation) : Bool := validation.errors.isEmpty

def errorCount (validation : Validation) : Nat := validation.errors.length

end Validation

/-! ## Checks that find nothing -/

namespace Issue

@[simp] theorem unlessIn_eq_none (value min max : Nat) :
    unlessIn value min max = none ↔ min ≤ value ∧ value ≤ max := by
  simp [unlessIn]

@[simp] theorem unlessGiven_eq_none (text : String) : unlessGiven text = none ↔ text ≠ "" := by
  simp [unlessGiven]

@[simp] theorem unlessOffered_eq_none (offered : Bool) :
    unlessOffered offered = none ↔ offered = true := by
  simp [unlessOffered]

@[simp] theorem unlessFormed_eq_none (formed : Bool) :
    unlessFormed formed = none ↔ formed = true := by
  simp [unlessFormed]

@[simp] theorem ifAbove_eq_none (value limit : Nat) :
    ifAbove value limit = none ↔ value ≤ limit := by
  simp [ifAbove]

end Issue

theorem Field.mem_all (field : Field) : field ∈ Field.all := by
  cases field <;> decide

namespace Validation

theorem issue?_eq_none_iff (validation : Validation) (field : Field) :
    validation.issue? field = none ↔
      ∀ check ∈ validation.checks, check.1 = field → check.2 = none := by
  simp [issue?, List.findSome?_eq_none_iff]

/-- A validation is without issues exactly when each of its checks found nothing. -/
theorem isValid_iff (validation : Validation) :
    validation.isValid = true ↔ ∀ check ∈ validation.checks, check.2 = none := by
  simp only [isValid, errors, List.isEmpty_iff, List.filterMap_eq_nil_iff,
    Option.map_eq_none_iff, issue?_eq_none_iff]
  constructor
  · intro clean check member
    exact clean check.1 (Field.mem_all check.1) check member rfl
  · intro clean field _ check member _
    exact clean check member

theorem errorCount_pos_iff (validation : Validation) :
    1 ≤ validation.errorCount ↔ validation.isValid = false := by
  unfold errorCount isValid
  cases validation.errors <;> simp

end Validation

end NetAudio
