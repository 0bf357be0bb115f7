import NetAudio.Form.SettingsChecks
import NetAudio.Proofs.Form.Findings
import NetAudio.Proofs.Net.Ipv4

/-!
# What is wrong with a settings edit

The faults of an edit of the daemon's settings, with the grammars of the texts in it: a host with a
port, a multicast address, a node id.  A node id is measured in bytes, but as its letters are all ASCII
that is their number.  The checks of an edit report exactly its faults, so it is valid exactly if each
field meets a condition of its own; only the syslog server depends on another field.
-/

set_option autoImplicit false

namespace NetAudio

namespace SettingsEdit

/-! ## Hosts and ports -/

def NamesPort (text : String) : Prop :=
  ∃ host port n, text.toList = host ++ ':' :: port ∧ ':' ∉ port ∧ host ≠ [] ∧
    Decimal.Spells port n ∧ n ≤ 65535

theorem isHostPort_iff (text : String) : isHostPort text = true ↔ NamesPort text := by
  rw [isHostPort]
  split
  · next uncut =>
      simp only [Bool.false_eq_true, false_iff]
      rintro ⟨host, port, n, written, last, -⟩
      have cut := (Text.cutLast?_eq_some_iff ':' _ host port).mpr ⟨last, written⟩
      rw [uncut] at cut
      cases cut
  · next host port cut =>
      obtain ⟨last, written⟩ := (Text.cutLast?_eq_some_iff _ _ _ _).mp cut
      have names : NamesPort text ↔ host ≠ [] ∧ ∃ n, Decimal.Spells port n ∧ n ≤ 65535 := by
        constructor
        · rintro ⟨host', port', n, written', last', some, spelt, small⟩
          have again := (Text.cutLast?_eq_some_iff ':' _ host' port').mpr ⟨last', written'⟩
          rw [cut] at again
          cases again
          exact ⟨some, n, spelt, small⟩
        · rintro ⟨some, n, spelt, small⟩
          exact ⟨host, port, n, written, last, some, spelt, small⟩
      have number := Decimal.exists_readU16_iff (String.ofList port)
      rw [String.toList_ofList] at number
      rw [names, ← number]
      cases Decimal.readU16 (String.ofList port) <;> simp

theorem NamesPort.given {text : String} (names : NamesPort text) : text ≠ "" := by
  rintro rfl
  obtain ⟨host, port, n, written, -⟩ := names
  simp at written

/-- The last colon counts, and the port may have a plus and zeros before it. -/
example : isHostPort "[::1]:+0514" = true ∧ isHostPort "::" = false ∧ isHostPort ":514" = false := by
  decide

/-! ## Multicast addresses -/

def NamesGroup (text : String) : Prop :=
  ∃ address : Ipv4, text = address.text ∧ 224 ≤ address.a.toNat ∧ address.a.toNat ≤ 239

theorem isMulticast_iff (text : String) : isMulticast text = true ↔ NamesGroup text := by
  simp only [isMulticast, Option.any_eq_true, Ipv4.ofText?_eq_some_iff, Ipv4.isMulticast,
    Bool.and_eq_true, decide_eq_true_eq, UInt8.le_iff_toNat_le]
  rfl

theorem NamesGroup.given {text : String} (names : NamesGroup text) : text ≠ "" := by
  obtain ⟨address, rfl, -⟩ := names
  intro empty
  have listed := address.toList_text
  rw [empty] at listed
  simp at listed

/-! ## Node ids -/

def IsNodeLetter (c : Char) : Prop :=
  ('A' ≤ c ∧ c ≤ 'Z') ∨ ('a' ≤ c ∧ c ≤ 'z') ∨ ('0' ≤ c ∧ c ≤ '9') ∨ c = ' ' ∨ c = '_'

theorem isNodeIdChar_iff (c : Char) : isNodeIdChar c = true ↔ IsNodeLetter c := by
  have between (first last : Char) :
      (decide (first.val ≤ c.val) && decide (c.val ≤ last.val)) = true ↔ first ≤ c ∧ c ≤ last := by
    rw [Bool.and_eq_true, decide_eq_true_eq, decide_eq_true_eq, Char.le_def, Char.le_def]
  have upper : c.isUpper = true ↔ 'A' ≤ c ∧ c ≤ 'Z' := decide_eq_true_iff
  have lower : c.isLower = true ↔ 'a' ≤ c ∧ c ≤ 'z' := between 'a' 'z'
  have digit : c.isDigit = true ↔ '0' ≤ c ∧ c ≤ '9' := between '0' '9'
  have letters : c.isAlphanum = (c.isUpper || c.isLower || c.isDigit) := rfl
  simp only [isNodeIdChar, letters, Bool.or_eq_true, decide_eq_true_eq, upper, lower, digit, or_assoc,
    IsNodeLetter]

theorem IsNodeLetter.ascii {c : Char} (letter : IsNodeLetter c) : c.toNat ≤ 0x7F := by
  have below {last : Char} (high : c ≤ last) (low : last.toNat ≤ 0x7F) : c.toNat ≤ 0x7F :=
    Nat.le_trans (UInt32.le_iff_toNat_le.mp high) low
  rcases letter with ⟨-, high⟩ | ⟨-, high⟩ | ⟨-, high⟩ | rfl | rfl
  · exact below high (by decide)
  · exact below high (by decide)
  · exact below high (by decide)
  · decide
  · decide

/-- An ASCII text has as many bytes as characters. -/
theorem utf8ByteSize_of_ascii {text : String} (ascii : ∀ c ∈ text.toList, c.toNat ≤ 0x7F) :
    text.utf8ByteSize = text.length := by
  have bytes (chars : List Char) (low : ∀ c ∈ chars, c.toNat ≤ 0x7F) :
      (String.ofList chars).utf8ByteSize = chars.length := by
    induction chars with
    | nil => rfl
    | cons c rest ih =>
        rw [List.forall_mem_cons] at low
        have one : c.utf8Size = 1 := Char.utf8Size_eq_one_iff.mpr low.1
        have split : String.ofList (c :: rest) = String.singleton c ++ String.ofList rest := by
          rw [String.singleton_eq_ofList, ← String.ofList_append, List.singleton_append]
        rw [split, String.utf8ByteSize_append, String.utf8ByteSize_singleton, one, ih low.2,
          List.length_cons, Nat.add_comm]
  have whole := bytes text.toList ascii
  rw [String.ofList_toList, String.length_toList] at whole
  exact whole

def NamesNode (text : String) : Prop :=
  5 ≤ text.length ∧ text.length ≤ 48 ∧ ∀ c ∈ text.toList, IsNodeLetter c

theorem isNodeId_iff (text : String) : isNodeId text = true ↔ NamesNode text := by
  have letters : text.toList.all isNodeIdChar = true ↔ ∀ c ∈ text.toList, IsNodeLetter c := by
    simp only [List.all_eq_true, isNodeIdChar_iff]
  rw [isNodeId, Bool.and_eq_true, Bool.and_eq_true, decide_eq_true_eq, decide_eq_true_eq, letters,
    and_assoc, NamesNode]
  constructor
  · rintro ⟨least, most, shown⟩
    rw [utf8ByteSize_of_ascii fun c member => (shown c member).ascii] at least most
    exact ⟨least, most, shown⟩
  · rintro ⟨least, most, shown⟩
    rw [← utf8ByteSize_of_ascii fun c member => (shown c member).ascii] at least most
    exact ⟨least, most, shown⟩

/-! ## Faults -/

inductive GroupFault (text : String) : Issue → Prop where
  | missing (empty : text = "") : GroupFault text .required
  | other (given : text ≠ "") (other : ¬ NamesGroup text) : GroupFault text .malformed

inductive Fault (edit : SettingsEdit) : Field → Issue → Prop where
  | logSeverity (outside : edit.logSeverity.toInt < 1 ∨ 5 < edit.logSeverity.toInt) :
      Fault edit .logSeverity .notOffered
  | syslogProto (other : edit.syslogProto ∉ ["none", "", "udp"]) :
      Fault edit .syslogProto .notOffered
  | serverMissing (remote : edit.syslogProto = "udp") (empty : edit.syslogServer = "") :
      Fault edit .syslogServer .required
  | serverOther (remote : edit.syslogProto = "udp") (given : edit.syslogServer ≠ "")
      (other : ¬ NamesPort edit.syslogServer) : Fault edit .syslogServer .malformed
  | rtpMcastBase {issue : Issue} (fault : GroupFault edit.rtpMcastBase issue) :
      Fault edit .rtpMcastBase issue
  | rtpPort (outside : edit.rtpPort.toNat < 1024 ∨ 65535 < edit.rtpPort.toNat) :
      Fault edit .rtpPort (.outOfRange edit.rtpPort.toNat 1024 65535)
  | rtspPort (outside : edit.rtspPort.toNat < 1024 ∨ 65535 < edit.rtspPort.toNat) :
      Fault edit .rtspPort (.outOfRange edit.rtspPort.toNat 1024 65535)
  | playoutDelay (large : 4000 < edit.playoutDelay.toNat) :
      Fault edit .playoutDelay (.outOfRange edit.playoutDelay.toNat 0 4000)
  | ticFrameSize (other : edit.ticFrameSize ∉ [48, 64, 96, 128, 192]) :
      Fault edit .ticFrameSize .notOffered
  | sampleRate (other : edit.sampleRate ∉ [44100, 48000, 96000, 192000, 384000]) :
      Fault edit .sampleRate .notOffered
  | maxTicFrameSize (outside : edit.maxTicFrameSize.toNat < 192 ∨ 8192 < edit.maxTicFrameSize.toNat) :
      Fault edit .maxTicFrameSize (.outOfRange edit.maxTicFrameSize.toNat 192 8192)
  | sapMcastAddr {issue : Issue} (fault : GroupFault edit.sapMcastAddr issue) :
      Fault edit .sapMcastAddr issue
  | sapInterval (large : 255 < edit.sapInterval.toNat) :
      Fault edit .sapInterval (.outOfRange edit.sapInterval.toNat 0 255)
  | customNodeId (given : edit.customNodeId ≠ "") (other : ¬ NamesNode edit.customNodeId) :
      Fault edit .customNodeId .malformed

/-! ## What each check finds -/

section Checks
variable (issue : Issue)

theorem unlessMulticast_eq_some (text : String) :
    unlessMulticast text = some issue ↔ GroupFault text issue := by
  have other : isMulticast text = false ↔ ¬ NamesGroup text := by
    rw [← Bool.not_eq_true, isMulticast_iff]
  constructor
  · intro found
    rw [unlessMulticast] at found
    split at found
    · next empty =>
        cases found
        exact .missing (String.isEmpty_iff.mp empty)
    · next given =>
        obtain ⟨unread, rfl⟩ := (Issue.unlessFormed_eq_some issue _).mp found
        exact .other (mt String.isEmpty_iff.mpr given) (other.mp unread)
  · rintro (empty | ⟨given, unread⟩)
    · rw [unlessMulticast, if_pos (String.isEmpty_iff.mpr empty)]
    · rw [unlessMulticast, if_neg (mt String.isEmpty_iff.mp given), Issue.unlessFormed_eq_some]
      exact ⟨other.mpr unread, rfl⟩

theorem checkSyslogServer_eq_some (edit : SettingsEdit) :
    edit.checkSyslogServer.2 = some issue ↔
      edit.syslogProto = "udp" ∧
        ((edit.syslogServer = "" ∧ issue = .required) ∨
          ((edit.syslogServer ≠ "" ∧ ¬ NamesPort edit.syslogServer) ∧ issue = .malformed)) := by
  have other : isHostPort edit.syslogServer = false ↔ ¬ NamesPort edit.syslogServer := by
    rw [← Bool.not_eq_true, isHostPort_iff]
  by_cases remote : edit.syslogProto = "udp"
  · by_cases empty : edit.syslogServer = ""
    · simp [checkSyslogServer, remote, empty, eq_comm (b := issue)]
    · simp [checkSyslogServer, remote, empty, Issue.unlessFormed_eq_some, other]
  · simp [checkSyslogServer, remote]

theorem unlessFormed_nodeId_eq_some (text : String) :
    Issue.unlessFormed (text.isEmpty || isNodeId text) = some issue ↔
      (text ≠ "" ∧ ¬ NamesNode text) ∧ issue = .malformed := by
  rw [Issue.unlessFormed_eq_some, Bool.or_eq_false_iff, ← Bool.not_eq_true, ← Bool.not_eq_true,
    String.isEmpty_iff, isNodeId_iff]

end Checks

theorem distinct_checks (edit : SettingsEdit) : (edit.validate.checks.map (·.1)).Nodup := by
  show [Field.logSeverity, .syslogProto, .syslogServer, .rtpMcastBase, .rtpPort, .rtspPort,
    .playoutDelay, .ticFrameSize, .sampleRate, .maxTicFrameSize, .sapMcastAddr, .sapInterval,
    .customNodeId].Nodup
  decide

theorem mem_checks_iff (edit : SettingsEdit) (field : Field) (issue : Issue) :
    (field, some issue) ∈ edit.validate.checks ↔ edit.Fault field issue := by
  have severe :
      Issue.unlessOffered
          (decide (1 ≤ edit.logSeverity.toInt) && decide (edit.logSeverity.toInt ≤ 5)) = some issue ↔
        (edit.logSeverity.toInt < 1 ∨ 5 < edit.logSeverity.toInt) ∧ issue = .notOffered := by
    rw [Issue.unlessOffered_eq_some, Bool.and_eq_false_iff, decide_eq_false_iff_not,
      decide_eq_false_iff_not, Int.not_le, Int.not_le]
  simp only [validate, List.mem_cons, List.not_mem_nil, or_false, Check.found_iff]
  simp only [checkSyslogServer_eq_some, unlessMulticast_eq_some, unlessFormed_nodeId_eq_some,
    unlessPort, Issue.unlessIn_eq_some, Issue.unlessOffered_contains_eq_some, severe]
  simp only [checkSyslogServer, syslogProtocols, ticFrameSizes, sampleRates]
  constructor
  · rintro (⟨rfl, outside, rfl⟩ | ⟨rfl, other, rfl⟩ |
      ⟨rfl, remote, ⟨empty, rfl⟩ | ⟨⟨given, other⟩, rfl⟩⟩ | ⟨rfl, fault⟩ | ⟨rfl, outside, rfl⟩ |
      ⟨rfl, outside, rfl⟩ | ⟨rfl, outside, rfl⟩ | ⟨rfl, other, rfl⟩ | ⟨rfl, other, rfl⟩ |
      ⟨rfl, outside, rfl⟩ | ⟨rfl, fault⟩ | ⟨rfl, outside, rfl⟩ | ⟨rfl, ⟨given, other⟩, rfl⟩)
    · exact .logSeverity outside
    · exact .syslogProto other
    · exact .serverMissing remote empty
    · exact .serverOther remote given other
    · exact .rtpMcastBase fault
    · exact .rtpPort outside
    · exact .rtspPort outside
    · exact .playoutDelay (by omega)
    · exact .ticFrameSize other
    · exact .sampleRate other
    · exact .maxTicFrameSize outside
    · exact .sapMcastAddr fault
    · exact .sapInterval (by omega)
    · exact .customNodeId given other
  · intro fault
    cases fault with
    | logSeverity outside => simp [outside]
    | syslogProto other => simp [other]
    | serverMissing remote empty => simp [remote, empty]
    | serverOther remote given other => simp [remote, given, other]
    | rtpMcastBase fault => simp [fault]
    | rtpPort outside => simp [outside]
    | rtspPort outside => simp [outside]
    | playoutDelay large => simp [large]
    | ticFrameSize other => simp [other]
    | sampleRate other => simp [other]
    | maxTicFrameSize outside => simp [outside]
    | sapMcastAddr fault => simp [fault]
    | sapInterval large => simp [large]
    | customNodeId given other => simp [given, other]

/-! ## Acceptable edits -/

structure Acceptable (edit : SettingsEdit) : Prop where
  logSeverity : 1 ≤ edit.logSeverity.toInt ∧ edit.logSeverity.toInt ≤ 5
  syslogProto : edit.syslogProto ∈ ["none", "", "udp"]
  syslogServer : edit.syslogProto = "udp" → NamesPort edit.syslogServer
  rtpMcastBase : NamesGroup edit.rtpMcastBase
  rtpPort : 1024 ≤ edit.rtpPort.toNat ∧ edit.rtpPort.toNat ≤ 65535
  rtspPort : 1024 ≤ edit.rtspPort.toNat ∧ edit.rtspPort.toNat ≤ 65535
  playoutDelay : edit.playoutDelay.toNat ≤ 4000
  ticFrameSize : edit.ticFrameSize ∈ [48, 64, 96, 128, 192]
  sampleRate : edit.sampleRate ∈ [44100, 48000, 96000, 192000, 384000]
  maxTicFrameSize : 192 ≤ edit.maxTicFrameSize.toNat ∧ edit.maxTicFrameSize.toNat ≤ 8192
  sapMcastAddr : NamesGroup edit.sapMcastAddr
  sapInterval : edit.sapInterval.toNat ≤ 255
  customNodeId : edit.customNodeId = "" ∨ NamesNode edit.customNodeId

theorem not_groupFault_iff (text : String) : (∀ issue, ¬ GroupFault text issue) ↔ NamesGroup text := by
  constructor
  · intro clean
    by_contra other
    by_cases empty : text = ""
    · exact clean _ (.missing empty)
    · exact clean _ (.other empty other)
  · rintro names issue (empty | ⟨-, other⟩)
    · exact names.given empty
    · exact other names

theorem acceptable_iff (edit : SettingsEdit) :
    edit.Acceptable ↔ ∀ field issue, ¬ edit.Fault field issue := by
  constructor
  · intro good field issue fault
    cases fault with
    | logSeverity outside => exact absurd good.logSeverity (by omega)
    | syslogProto other => exact other good.syslogProto
    | serverMissing remote empty => exact (good.syslogServer remote).given empty
    | serverOther remote given other => exact other (good.syslogServer remote)
    | rtpMcastBase fault => exact (not_groupFault_iff _).mpr good.rtpMcastBase _ fault
    | rtpPort outside => exact absurd good.rtpPort (by omega)
    | rtspPort outside => exact absurd good.rtspPort (by omega)
    | playoutDelay large => exact Nat.not_lt.mpr good.playoutDelay large
    | ticFrameSize other => exact other good.ticFrameSize
    | sampleRate other => exact other good.sampleRate
    | maxTicFrameSize outside => exact absurd good.maxTicFrameSize (by omega)
    | sapMcastAddr fault => exact (not_groupFault_iff _).mpr good.sapMcastAddr _ fault
    | sapInterval large => exact Nat.not_lt.mpr good.sapInterval large
    | customNodeId given other => exact good.customNodeId.elim given other
  · intro clean
    have holds {condition : Prop} {field : Field} {issue : Issue}
        (otherwise : ¬ condition → edit.Fault field issue) : condition :=
      Classical.not_not.mp fun broken => clean field issue (otherwise broken)
    exact
      { logSeverity := holds fun broken => .logSeverity (by omega)
        syslogProto := holds .syslogProto
        syslogServer := fun remote => holds fun other =>
          .serverOther remote (holds fun empty => .serverMissing remote (not_not.mp empty)) other
        rtpMcastBase := (not_groupFault_iff _).mp fun _ fault => clean _ _ (.rtpMcastBase fault)
        rtpPort := holds fun broken => .rtpPort (by omega)
        rtspPort := holds fun broken => .rtspPort (by omega)
        playoutDelay := holds fun broken => .playoutDelay (Nat.not_le.mp broken)
        ticFrameSize := holds .ticFrameSize
        sampleRate := holds .sampleRate
        maxTicFrameSize := holds fun broken => .maxTicFrameSize (by omega)
        sapMcastAddr := (not_groupFault_iff _).mp fun _ fault => clean _ _ (.sapMcastAddr fault)
        sapInterval := holds fun broken => .sapInterval (Nat.not_le.mp broken)
        customNodeId := holds fun broken => by
          rw [not_or] at broken
          exact .customNodeId broken.1 broken.2 }

/-- The checks report every fault of an edit and nothing else, so an edit is valid exactly if it is
acceptable. -/
theorem settings_faults_are_reported (edit : SettingsEdit) :
    edit.validate.Reports edit.Fault ∧ (edit.validate.isValid = true ↔ edit.Acceptable) := by
  have reports := Validation.reports_of_checks edit.distinct_checks edit.mem_checks_iff
  exact ⟨reports, reports.valid.trans edit.acceptable_iff.symm⟩

end SettingsEdit

end NetAudio
