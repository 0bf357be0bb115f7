import NetAudio.Proofs.ChannelMap.Lists
import NetAudio.Proofs.Stream.Records

/-!
# Records that are read and written again

Reading a record as a draft and writing the draft again repairs the list of channels and keeps all
else: the list becomes the run that it is anchored to.  Records with a run are the fixed points, and
every record is at one after a single trip.  The other way round nothing is lost: what a draft is
written to is read as that draft.
-/

set_option autoImplicit false

namespace NetAudio

/-! ## Narrowing -/

namespace SourceDraft

theorem narrow_toUInt32 (field : String) (byte : UInt8) :
    narrow field byte.toUInt32 = .ok byte := by
  have small : byte.toUInt32.toNat ≤ 255 := by
    have bound := byte.toNat_lt
    rw [UInt8.toNat_toUInt32]
    omega
  have same : byte.toUInt32.toUInt8 = byte := UInt8.toNat_inj.mp (by simp)
  rw [narrow_of_le field _ small, same]

theorem narrow_of_gt (field : String) (value : UInt32) (large : 255 < value.toNat) :
    narrow field value =
      .error (.invalidArgument (field ++ " out of range: " ++ toString value.toNat)) := by
  rw [narrow, if_neg (Nat.not_lt.mpr large)]
  rfl

theorem toSource_of_large_ttl (draft : SourceDraft) (large : 255 < draft.ttl.toNat) :
    draft.toSource =
      .error (.invalidArgument ("ttl out of range: " ++ toString draft.ttl.toNat)) := by
  rw [toSource, narrow_of_gt _ _ large]
  rfl

theorem toSource_of_large_payloadType (draft : SourceDraft) (small : draft.ttl.toNat ≤ 255)
    (large : 255 < draft.payloadType.toNat) :
    draft.toSource = .error
      (.invalidArgument ("payload_type out of range: " ++ toString draft.payloadType.toNat)) := by
  rw [toSource, narrow_of_le _ _ small, narrow_of_gt _ _ large]
  rfl

end SourceDraft

/-! ## Reading a record

Only the list of channels decides whether a record is read, and nothing else is changed by writing what
was read. -/

section Reading
variable {map : ChannelMap} {cause : CalculatorError}

theorem SourceDraft.ofSource_of_error {record : Source}
    (refused : ChannelMap.ofRecord record.map = .error cause) : ofSource record = .error cause := by
  rw [ofSource, refused]
  rfl

theorem SourceDraft.ofSource_of_map {record : Source}
    (taken : ChannelMap.ofRecord record.map = .ok map) :
    ∃ draft, ofSource record = .ok draft ∧ draft.map = map ∧
      draft.toSource = .ok { record with map := map.indices } := by
  rw [ofSource, taken]
  refine ⟨_, rfl, rfl, ?_⟩
  rw [toSource, narrow_toUInt32, narrow_toUInt32]
  rfl

theorem SinkDraft.ofSink_of_error {record : Sink}
    (refused : ChannelMap.ofRecord record.map = .error cause) : ofSink record = .error cause := by
  rw [ofSink, refused]
  rfl

theorem SinkDraft.ofSink_of_map {record : Sink}
    (taken : ChannelMap.ofRecord record.map = .ok map) :
    ∃ draft, ofSink record = .ok draft ∧ draft.map = map ∧
      draft.toSink = { record with map := map.indices } := by
  rw [ofSink, taken]
  exact ⟨_, rfl, rfl, rfl⟩

end Reading

/-! ## The channels of a record -/

namespace StreamKind

def channels : (kind : StreamKind) → kind.Record → List UInt8
  | .source, record => Source.map record
  | .sink, record => Sink.map record

def withChannels : (kind : StreamKind) → kind.Record → List UInt8 → kind.Record
  | .source, record, map => { (show Source from record) with map }
  | .sink, record, map => { (show Sink from record) with map }

def trip (kind : StreamKind) (record : kind.Record) : Except CalculatorError kind.Record := do
  let draft ← kind.read record
  kind.write draft

section Channels
variable (kind : StreamKind) (record : kind.Record)

@[simp] theorem channels_withChannels (map : List UInt8) :
    kind.channels (kind.withChannels record map) = map := by
  cases kind <;> rfl

@[simp] theorem withChannels_withChannels (first second : List UInt8) :
    kind.withChannels (kind.withChannels record first) second = kind.withChannels record second := by
  cases kind <;> rfl

@[simp] theorem withChannels_channels : kind.withChannels record (kind.channels record) = record := by
  cases kind <;> rfl

theorem recordId_withChannels (map : List UInt8) :
    kind.recordId (kind.withChannels record map) = kind.recordId record := by
  cases kind <;> rfl

end Channels

/-! ## A trip -/

section Trip
variable {kind : StreamKind} {record : kind.Record}

theorem read_of_error {cause : CalculatorError}
    (refused : ChannelMap.ofRecord (kind.channels record) = .error cause) :
    kind.read record = .error cause := by
  cases kind with
  | source => exact SourceDraft.ofSource_of_error refused
  | sink => exact SinkDraft.ofSink_of_error refused

theorem read_of_map {map : ChannelMap}
    (taken : ChannelMap.ofRecord (kind.channels record) = .ok map) :
    ∃ draft, kind.read record = .ok draft ∧ StreamDraft.map draft = map ∧
      kind.write draft = .ok (kind.withChannels record map.indices) := by
  cases kind with
  | source => exact SourceDraft.ofSource_of_map taken
  | sink =>
      obtain ⟨draft, read, held, written⟩ := SinkDraft.ofSink_of_map taken
      exact ⟨draft, read, held, congrArg Except.ok written⟩

theorem read_of_countable (counted : ChannelMap.Countable (kind.channels record).length) :
    ∃ draft map, kind.read record = .ok draft ∧ StreamDraft.map draft = map ∧
      map.count = (kind.channels record).length ∧
      map.start = ChannelMap.anchor (kind.channels record) ∧
      kind.write draft = .ok (kind.withChannels record map.indices) := by
  obtain ⟨map, anchored, count, start⟩ := ChannelMap.anchored_of_countable _ counted
  rw [← ChannelMap.ofRecord_eq_anchored] at anchored
  obtain ⟨draft, read, held, written⟩ := read_of_map anchored
  exact ⟨draft, map, read, held, count, start, written⟩

theorem read_of_uncountable (beyond : ¬ ChannelMap.Countable (kind.channels record).length) :
    kind.read record = .error (.invalidChannelCount (kind.channels record).length) := by
  apply read_of_error
  rw [ChannelMap.ofRecord_eq_anchored]
  exact ChannelMap.anchored_of_uncountable _ beyond

theorem trip_eq_ok_iff (once : kind.Record) :
    kind.trip record = .ok once ↔ ∃ map, ChannelMap.ofRecord (kind.channels record) = .ok map ∧
      once = kind.withChannels record map.indices := by
  cases taken : ChannelMap.ofRecord (kind.channels record) with
  | error cause =>
      rw [trip, read_of_error taken]
      simp [bind, Except.bind]
  | ok map =>
      obtain ⟨draft, read, -, written⟩ := read_of_map taken
      rw [trip, read]
      simp only [bind, Except.bind, written, Except.ok.injEq]
      constructor
      · rintro rfl
        exact ⟨map, rfl, rfl⟩
      · rintro ⟨_, rfl, rfl⟩
        rfl

theorem trip_eq_self_iff :
    kind.trip record = .ok record ↔
      ∃ map, ChannelMap.ofIndices (kind.channels record) = .ok map := by
  rw [trip_eq_ok_iff]
  constructor
  · rintro ⟨map, -, same⟩
    refine ⟨map, (ChannelMap.ofIndices_eq_ok_iff _ map).mpr ?_⟩
    have listed := congrArg kind.channels same
    rw [channels_withChannels] at listed
    exact listed.symm
  · rintro ⟨map, taken⟩
    have listed := (ChannelMap.ofIndices_eq_ok_iff _ map).mp taken
    refine ⟨map, ?_, ?_⟩
    · rw [← listed]
      exact map.ofRecord_indices
    · rw [listed, withChannels_channels]

theorem trip_trip {once : kind.Record} (tripped : kind.trip record = .ok once) :
    kind.trip once = .ok once := by
  obtain ⟨map, -, rfl⟩ := (trip_eq_ok_iff once).mp tripped
  rw [trip_eq_self_iff, channels_withChannels]
  exact ⟨map, map.ofIndices_indices⟩

end Trip

structure Retracts (kind : StreamKind) (record : kind.Record) : Prop where
  read : (∃ draft, kind.read record = .ok draft) ↔
    1 ≤ (kind.channels record).length ∧ (kind.channels record).length ≤ 64
  refused : ¬ (1 ≤ (kind.channels record).length ∧ (kind.channels record).length ≤ 64) →
    kind.read record = .error (.invalidChannelCount (kind.channels record).length)
  /-- The list becomes the run of its length from its first channel, or from the last start that
  leaves room; all else is kept. -/
  written : ∀ draft, kind.read record = .ok draft → ∃ run,
    kind.write draft = .ok (kind.withChannels record run) ∧
      run.map UInt8.toNat = List.range'
        (min ((kind.channels record).headD 0).toNat (64 - (kind.channels record).length))
        (kind.channels record).length
  fixed : kind.trip record = .ok record ↔
    ∃ map, ChannelMap.ofIndices (kind.channels record) = .ok map
  again : ∀ once, kind.trip record = .ok once → kind.trip once = .ok once

theorem retracts (kind : StreamKind) (record : kind.Record) : kind.Retracts record where
  read := by
    by_cases counted : ChannelMap.Countable (kind.channels record).length
    · obtain ⟨draft, -, read, -⟩ := read_of_countable counted
      exact iff_of_true ⟨draft, read⟩ counted
    · refine iff_of_false ?_ counted
      rintro ⟨draft, read⟩
      rw [read_of_uncountable counted] at read
      cases read
  refused := read_of_uncountable
  written := by
    intro draft found
    by_cases counted : ChannelMap.Countable (kind.channels record).length
    · obtain ⟨same, map, read, -, count, start, written⟩ := read_of_countable counted
      rw [read] at found
      cases found
      refine ⟨map.indices, written, ?_⟩
      rw [map.toNat_indices, count, start]
      rfl
    · rw [read_of_uncountable counted] at found
      cases found
  fixed := trip_eq_self_iff
  again := fun _ => trip_trip

end StreamKind

structure SourceDraft.Writes (draft : SourceDraft) : Prop where
  written : (∃ record, draft.toSource = .ok record) ↔
    draft.ttl.toNat ≤ 255 ∧ draft.payloadType.toNat ≤ 255
  ttl : 255 < draft.ttl.toNat → draft.toSource =
    .error (.invalidArgument ("ttl out of range: " ++ toString draft.ttl.toNat))
  payloadType : draft.ttl.toNat ≤ 255 → 255 < draft.payloadType.toNat → draft.toSource =
    .error (.invalidArgument ("payload_type out of range: " ++ toString draft.payloadType.toNat))
  readBack : ∀ record, draft.toSource = .ok record → ofSource record = .ok draft

theorem SourceDraft.writes (draft : SourceDraft) : draft.Writes where
  written := by
    constructor
    · rintro ⟨record, converted⟩
      have copies := copies_of_toSource converted
      have ttl := record.ttl.toNat_lt
      have payloadType := record.payloadType.toNat_lt
      rw [copies.ttl] at ttl
      rw [copies.payloadType] at payloadType
      omega
    · rintro ⟨ttl, payloadType⟩
      exact draft.toSource_of_le ttl payloadType
  ttl := draft.toSource_of_large_ttl
  payloadType := draft.toSource_of_large_payloadType
  readBack := by
    intro record converted
    exact @StreamKind.read_of_write .source draft record converted

/-- Reading and writing records is a retraction onto the records whose list of channels is a run, and
writing and reading drafts loses nothing. -/
theorem reading_retracts_records :
    (∀ (kind : StreamKind) (record : kind.Record), kind.Retracts record) ∧
      (∀ draft : SourceDraft, draft.Writes) ∧
      ∀ draft : SinkDraft, SinkDraft.ofSink draft.toSink = .ok draft :=
  ⟨StreamKind.retracts, SourceDraft.writes, SinkDraft.ofSink_toSink⟩

end NetAudio
