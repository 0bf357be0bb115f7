import NetAudio.Form.EditForm

/-!
# Drafts and the records they become

A record copies a draft when it has the draft's values, numbers compared as numbers.  What a draft
becomes copies it, and a record that copies a draft is read back as that draft.  The last section
says the same of both kinds of streams at once.
-/

set_option autoImplicit false

namespace NetAudio

structure Source.Copies (record : Source) (draft : SourceDraft) : Prop where
  id : record.id = draft.id
  enabled : record.enabled = draft.enabled
  name : record.name = draft.name
  io : record.io = draft.io
  maxSamplesPerPacket : record.maxSamplesPerPacket = draft.maxSamplesPerPacket
  codec : record.codec = draft.codec
  address : record.address = draft.address
  ttl : record.ttl.toNat = draft.ttl.toNat
  payloadType : record.payloadType.toNat = draft.payloadType.toNat
  dscp : record.dscp = draft.dscp
  refclkPtpTraceable : record.refclkPtpTraceable = draft.refclkPtpTraceable
  map : record.map = draft.map.indices

namespace SourceDraft

theorem narrow_of_le (field : String) (value : UInt32) (fits : value.toNat ≤ 255) :
    narrow field value = .ok value.toUInt8 := by
  rw [narrow, if_pos]
  exact Nat.lt_succ_of_le fits

theorem toNat_of_narrow {field : String} {value : UInt32} {byte : UInt8}
    (narrowed : narrow field value = .ok byte) : byte.toNat = value.toNat := by
  unfold narrow at narrowed
  split at narrowed
  · next fits =>
      cases narrowed
      rw [UInt32.toNat_toUInt8]
      exact Nat.mod_eq_of_lt fits
  · cases narrowed

theorem toSource_of_le (draft : SourceDraft) (ttl : draft.ttl.toNat ≤ 255)
    (payloadType : draft.payloadType.toNat ≤ 255) : ∃ record, draft.toSource = .ok record := by
  rw [toSource, narrow_of_le _ _ ttl, narrow_of_le _ _ payloadType]
  exact ⟨_, rfl⟩

theorem copies_of_toSource {draft : SourceDraft} {record : Source}
    (converted : draft.toSource = .ok record) : record.Copies draft := by
  cases ttl : narrow "ttl" draft.ttl with
  | error cause =>
      rw [toSource, ttl] at converted
      cases converted
  | ok ttlByte =>
      cases payloadType : narrow "payload_type" draft.payloadType with
      | error cause =>
          rw [toSource, ttl, payloadType] at converted
          cases converted
      | ok payloadByte =>
          rw [toSource, ttl, payloadType] at converted
          cases converted
          exact {
            id := rfl
            enabled := rfl
            name := rfl
            io := rfl
            maxSamplesPerPacket := rfl
            codec := rfl
            address := rfl
            ttl := toNat_of_narrow ttl
            payloadType := toNat_of_narrow payloadType
            dscp := rfl
            refclkPtpTraceable := rfl
            map := rfl }

theorem ofSource_of_copies (record : Source) (draft : SourceDraft)
    (copies : record.Copies draft) : ofSource record = .ok draft := by
  have ttl : record.ttl.toUInt32 = draft.ttl := UInt32.toNat_inj.mp (by simpa using copies.ttl)
  have payloadType : record.payloadType.toUInt32 = draft.payloadType :=
    UInt32.toNat_inj.mp (by simpa using copies.payloadType)
  rw [ofSource, copies.map, ChannelMap.ofRecord_indices]
  simp only [bind, Except.bind, pure, Except.pure, copies.id, copies.enabled, copies.name,
    copies.io, copies.maxSamplesPerPacket, copies.codec, copies.address, ttl, payloadType,
    copies.dscp, copies.refclkPtpTraceable]

end SourceDraft

theorem SinkDraft.ofSink_toSink (draft : SinkDraft) : ofSink draft.toSink = .ok draft := by
  rw [ofSink, toSink, ChannelMap.ofRecord_indices]
  rfl

/-! ## Either kind -/

namespace StreamKind

def Draft : StreamKind → Type
  | .source => SourceDraft
  | .sink => SinkDraft

instance : (kind : StreamKind) → StreamDraft kind.Draft
  | .source => inferInstanceAs (StreamDraft SourceDraft)
  | .sink => inferInstanceAs (StreamDraft SinkDraft)

def Record : StreamKind → Type
  | .source => Source
  | .sink => Sink

def update : (kind : StreamKind) → kind.Record → StreamUpdate
  | .source, record => .source record
  | .sink, record => .sink record

def recordId (kind : StreamKind) (record : kind.Record) : UInt8 :=
  (kind.update record).id

def read : (kind : StreamKind) → kind.Record → Except CalculatorError kind.Draft
  | .source, record => SourceDraft.ofSource record
  | .sink, record => SinkDraft.ofSink record

def write : (kind : StreamKind) → kind.Draft → Except CalculatorError kind.Record
  | .source, draft => SourceDraft.toSource draft
  | .sink, draft => .ok (SinkDraft.toSink draft)

section Writing
variable {kind : StreamKind} {draft : kind.Draft} {record : kind.Record}

theorem toUpdate_eq_map_write (draft : kind.Draft) :
    StreamDraft.toUpdate draft = (kind.write draft).map kind.update := by
  cases kind <;> rfl

theorem recordId_of_write (written : kind.write draft = .ok record) :
    kind.recordId record = StreamDraft.id draft := by
  cases kind with
  | source => exact (SourceDraft.copies_of_toSource written).id
  | sink =>
      cases written
      rfl

theorem read_of_write (written : kind.write draft = .ok record) : kind.read record = .ok draft := by
  cases kind with
  | source =>
      exact SourceDraft.ofSource_of_copies record draft (SourceDraft.copies_of_toSource written)
  | sink =>
      cases written
      exact SinkDraft.ofSink_toSink draft

end Writing

end StreamKind

/-- What a draft becomes has the draft's id and is read back as the draft. -/
theorem toUpdate_reads_back (kind : StreamKind) (draft : kind.Draft) (sent : StreamUpdate)
    (carries : StreamDraft.toUpdate draft = .ok sent) :
    ∃ record, sent = kind.update record ∧ kind.recordId record = StreamDraft.id draft ∧
      kind.read record = .ok draft := by
  rw [StreamKind.toUpdate_eq_map_write] at carries
  cases written : kind.write draft with
  | error cause =>
      rw [written] at carries
      cases carries
  | ok record =>
      rw [written] at carries
      cases carries
      exact ⟨record, rfl, StreamKind.recordId_of_write written, StreamKind.read_of_write written⟩

end NetAudio
