import NetAudio.Proofs.Json.Records
import NetAudio.Proofs.Wire.Words
import NetAudio.Wire.Console

/-!
# Documents that are read back

Every type that is sent, stored or served as JSON: each of its values is read back from the document
it is written as, and from the text of that document.
-/

set_option autoImplicit false

namespace NetAudio

open Json

section Descriptions

attribute [local simp] DaemonSettings.form SettingsEdit.form Version.form PtpSettings.form
  PtpStatus.form SinkFlags.form SinkStatus.form RemoteSource.form Source.form SourceDraft.form Sink.form
  SinkDraft.form SourceList.form SinkList.form StreamList.form RemoteSourceList.form DaemonLink.form
  ServiceSettings.form PollingSettings.form CalculatorSettings.form ConsoleSettings.form

/-! ## Reports and settings of the daemon -/

theorem DaemonSettings.form_lawful : DaemonSettings.form.Lawful := {}
instance : Faithful DaemonSettings := DaemonSettings.form_lawful.faithful

theorem SettingsEdit.form_lawful : SettingsEdit.form.Lawful := {}
instance : Faithful SettingsEdit := SettingsEdit.form_lawful.faithful

theorem Version.form_lawful : Version.form.Lawful := {}
instance : Faithful Version := Version.form_lawful.faithful

theorem PtpSettings.form_lawful : PtpSettings.form.Lawful := {}
instance : Faithful PtpSettings := PtpSettings.form_lawful.faithful

theorem PtpStatus.form_lawful : PtpStatus.form.Lawful := {}
instance : Faithful PtpStatus := PtpStatus.form_lawful.faithful

theorem SinkFlags.form_lawful : SinkFlags.form.Lawful := {}
instance : Faithful SinkFlags := SinkFlags.form_lawful.faithful

theorem SinkStatus.form_lawful : SinkStatus.form.Lawful := {}
instance : Faithful SinkStatus := SinkStatus.form_lawful.faithful

theorem RemoteSource.form_lawful : RemoteSource.form.Lawful := {}
instance : Faithful RemoteSource := RemoteSource.form_lawful.faithful

/-! ## Streams -/

theorem Source.form_lawful : Source.form.Lawful := {}
instance : Faithful Source := Source.form_lawful.faithful

theorem SourceDraft.form_lawful : SourceDraft.form.Lawful := {}
instance : Faithful SourceDraft := SourceDraft.form_lawful.faithful

theorem Sink.form_lawful : Sink.form.Lawful := {}
instance : Faithful Sink := Sink.form_lawful.faithful

theorem SinkDraft.form_lawful : SinkDraft.form.Lawful := {}
instance : Faithful SinkDraft := SinkDraft.form_lawful.faithful

/-! ## Lists -/

theorem SourceList.form_lawful : SourceList.form.Lawful := {}
instance : Faithful SourceList := SourceList.form_lawful.faithful

theorem SinkList.form_lawful : SinkList.form.Lawful := {}
instance : Faithful SinkList := SinkList.form_lawful.faithful

theorem StreamList.form_lawful : StreamList.form.Lawful := {}
instance : Faithful StreamList := StreamList.form_lawful.faithful

theorem RemoteSourceList.form_lawful : RemoteSourceList.form.Lawful := {}
instance : Faithful RemoteSourceList := RemoteSourceList.form_lawful.faithful

/-! ## Settings of the console -/

theorem DaemonLink.form_lawful : DaemonLink.form.Lawful := {}
instance : Faithful DaemonLink := DaemonLink.form_lawful.faithful

theorem ServiceSettings.form_lawful : ServiceSettings.form.Lawful := {}
instance : Faithful ServiceSettings := ServiceSettings.form_lawful.faithful

theorem PollingSettings.form_lawful : PollingSettings.form.Lawful := {}
instance : Faithful PollingSettings := PollingSettings.form_lawful.faithful

theorem CalculatorSettings.form_lawful : CalculatorSettings.form.Lawful := {}
instance : Faithful CalculatorSettings := CalculatorSettings.form_lawful.faithful

theorem ConsoleSettings.form_lawful : ConsoleSettings.form.Lawful := {}
instance : Faithful ConsoleSettings := ConsoleSettings.form_lawful.faithful

end Descriptions

/-! ## All of them -/

inductive DocumentType where
  | settings
  | settingsEdit
  | version
  | ptpSettings
  | ptpStatus
  | source
  | sink
  | sourceDraft
  | sinkDraft
  | sinkFlags
  | sinkStatus
  | remoteSource
  | sourceList
  | sinkList
  | streamList
  | remoteSourceList
  | consoleSettings
  | channelMap
  | codec
  | dscp
  | sampleRate
  | ratePolicy
  | streamKind
  | editMode
  deriving DecidableEq, Repr

namespace DocumentType

@[reducible] def Value : DocumentType → Type
  | .settings => DaemonSettings
  | .settingsEdit => SettingsEdit
  | .version => Version
  | .ptpSettings => PtpSettings
  | .ptpStatus => PtpStatus
  | .source => Source
  | .sink => Sink
  | .sourceDraft => SourceDraft
  | .sinkDraft => SinkDraft
  | .sinkFlags => SinkFlags
  | .sinkStatus => SinkStatus
  | .remoteSource => RemoteSource
  | .sourceList => SourceList
  | .sinkList => SinkList
  | .streamList => StreamList
  | .remoteSourceList => RemoteSourceList
  | .consoleSettings => ConsoleSettings
  | .channelMap => ChannelMap
  | .codec => Codec
  | .dscp => Dscp
  | .sampleRate => SampleRate
  | .ratePolicy => RatePolicy
  | .streamKind => StreamKind
  | .editMode => EditMode

instance : (type : DocumentType) → Wire type.Value
  | .settings => inferInstanceAs (Wire DaemonSettings)
  | .settingsEdit => inferInstanceAs (Wire SettingsEdit)
  | .version => inferInstanceAs (Wire Version)
  | .ptpSettings => inferInstanceAs (Wire PtpSettings)
  | .ptpStatus => inferInstanceAs (Wire PtpStatus)
  | .source => inferInstanceAs (Wire Source)
  | .sink => inferInstanceAs (Wire Sink)
  | .sourceDraft => inferInstanceAs (Wire SourceDraft)
  | .sinkDraft => inferInstanceAs (Wire SinkDraft)
  | .sinkFlags => inferInstanceAs (Wire SinkFlags)
  | .sinkStatus => inferInstanceAs (Wire SinkStatus)
  | .remoteSource => inferInstanceAs (Wire RemoteSource)
  | .sourceList => inferInstanceAs (Wire SourceList)
  | .sinkList => inferInstanceAs (Wire SinkList)
  | .streamList => inferInstanceAs (Wire StreamList)
  | .remoteSourceList => inferInstanceAs (Wire RemoteSourceList)
  | .consoleSettings => inferInstanceAs (Wire ConsoleSettings)
  | .channelMap => inferInstanceAs (Wire ChannelMap)
  | .codec => inferInstanceAs (Wire Codec)
  | .dscp => inferInstanceAs (Wire Dscp)
  | .sampleRate => inferInstanceAs (Wire SampleRate)
  | .ratePolicy => inferInstanceAs (Wire RatePolicy)
  | .streamKind => inferInstanceAs (Wire StreamKind)
  | .editMode => inferInstanceAs (Wire EditMode)

instance : ∀ type : DocumentType, Faithful type.Value
  | .settings => inferInstanceAs (Faithful DaemonSettings)
  | .settingsEdit => inferInstanceAs (Faithful SettingsEdit)
  | .version => inferInstanceAs (Faithful Version)
  | .ptpSettings => inferInstanceAs (Faithful PtpSettings)
  | .ptpStatus => inferInstanceAs (Faithful PtpStatus)
  | .source => inferInstanceAs (Faithful Source)
  | .sink => inferInstanceAs (Faithful Sink)
  | .sourceDraft => inferInstanceAs (Faithful SourceDraft)
  | .sinkDraft => inferInstanceAs (Faithful SinkDraft)
  | .sinkFlags => inferInstanceAs (Faithful SinkFlags)
  | .sinkStatus => inferInstanceAs (Faithful SinkStatus)
  | .remoteSource => inferInstanceAs (Faithful RemoteSource)
  | .sourceList => inferInstanceAs (Faithful SourceList)
  | .sinkList => inferInstanceAs (Faithful SinkList)
  | .streamList => inferInstanceAs (Faithful StreamList)
  | .remoteSourceList => inferInstanceAs (Faithful RemoteSourceList)
  | .consoleSettings => inferInstanceAs (Faithful ConsoleSettings)
  | .channelMap => inferInstanceAs (Faithful ChannelMap)
  | .codec => inferInstanceAs (Faithful Codec)
  | .dscp => inferInstanceAs (Faithful Dscp)
  | .sampleRate => inferInstanceAs (Faithful SampleRate)
  | .ratePolicy => inferInstanceAs (Faithful RatePolicy)
  | .streamKind => inferInstanceAs (Faithful StreamKind)
  | .editMode => inferInstanceAs (Faithful EditMode)

end DocumentType

/-! ## Documents of checked values -/

theorem ChannelMap.toJson_eq (map : ChannelMap) :
    toJson map = .array ((List.range' map.start map.count).map .ofNat) := by
  have written : toJson map = .array ((map.indices.map UInt8.toNat).map .ofNat) := by
    rw [List.map_map]
    rfl
  rw [written, map.toNat_indices]

theorem exists_channelMap_iff (doc : Json) :
    (∃ map : ChannelMap, ofJson doc = .ok map) ↔
      ∃ start count, 0 < count ∧ start + count ≤ bankSize ∧
        doc = .array ((List.range' start count).map .ofNat) := by
  simp only [ofJson_eq_ok_iff, ChannelMap.toJson_eq]
  constructor
  · rintro ⟨map, rfl⟩
    exact ⟨map.start, map.count, map.count_pos, map.fits, rfl⟩
  · rintro ⟨start, count, positive, fits, rfl⟩
    exact ⟨⟨start, count, positive, fits⟩, rfl⟩

theorem exists_dscp_iff (doc : Json) :
    (∃ dscp : Dscp, ofJson doc = .ok dscp) ↔ doc ∈ Dscp.all.map toJson := by
  simp only [ofJson_eq_ok_iff, List.mem_map]
  constructor
  · rintro ⟨dscp, rfl⟩
    exact ⟨dscp, by cases dscp <;> decide, rfl⟩
  · rintro ⟨dscp, -, rfl⟩
    exact ⟨dscp, rfl⟩

theorem exists_sampleRate_iff (doc : Json) :
    (∃ rate : SampleRate, ofJson doc = .ok rate) ↔ doc ∈ SampleRate.all.map toJson := by
  simp only [ofJson_eq_ok_iff, List.mem_map]
  constructor
  · rintro ⟨rate, rfl⟩
    exact ⟨rate, by cases rate <;> decide, rfl⟩
  · rintro ⟨rate, -, rfl⟩
    exact ⟨rate, rfl⟩

/-! ## Round trips -/

/-- Reading again changes nothing, if every value is read back from what it is written as. -/
theorem reread {α : Type} {reading : Except Fault α} {again : α → Except Fault α}
    (back : ∀ value, again value = .ok value) : (reading >>= again) = reading := by
  cases reading with
  | error fault => rfl
  | ok value => exact back value

/-- Every value is read back from its document and from the text of its document; so what any document
stands for, if it does for something, stays the same when it is written and read again.  Maps, codepoints
and rates stand for themselves only. -/
theorem documents_read_back :
    (∀ (type : DocumentType) (value : type.Value),
      ofJson (toJson value) = .ok value ∧
        ofJson (readWhole (toJson value).write) = .ok value) ∧
    (∀ (type : DocumentType) (doc : Json),
      (do ofJson (toJson (← (ofJson doc : Except Fault type.Value)))) =
        (ofJson doc : Except Fault type.Value)) ∧
    (∀ (type : DocumentType) (text : String),
      (do ofJson (readWhole (toJson (← (ofJson (readWhole text) : Except Fault type.Value))).write)) =
        (ofJson (readWhole text) : Except Fault type.Value)) ∧
    (∀ doc, (∃ map : ChannelMap, ofJson doc = .ok map) ↔
      ∃ start count, 0 < count ∧ start + count ≤ 64 ∧
        doc = .array ((List.range' start count).map .ofNat)) ∧
    (∀ doc, (∃ dscp : Dscp, ofJson doc = .ok dscp) ↔ doc ∈ [46, 34, 26, 0].map Json.integer) ∧
    (∀ doc, (∃ rate : SampleRate, ofJson doc = .ok rate) ↔
      doc ∈ [44100, 48000, 88200, 96000, 176400, 192000, 352800, 384000].map Json.integer) := by
  refine ⟨fun type value => ⟨ofJson_toJson value, ofJson_readWhole_write value⟩,
    fun type doc => reread ofJson_toJson, fun type text => reread ofJson_readWhole_write,
    exists_channelMap_iff, exists_dscp_iff, exists_sampleRate_iff⟩

end NetAudio
