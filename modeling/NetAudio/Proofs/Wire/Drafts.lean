import NetAudio.Proofs.Form.Submission
import NetAudio.Proofs.Json.Parallel
import NetAudio.Proofs.Service.Routes
import NetAudio.Proofs.Stream.Retraction
import NetAudio.Proofs.Wire.Documents

/-!
# Drafts and records in JSON

A draft and the record that it is written to have the same documents, but that a document of a record
may leave out the id.  So the draft in a body that is answered as valid is itself a record.
-/

set_option autoImplicit false

namespace NetAudio

open Json

/-! ## Slot by slot -/

theorem SourceDraft.alike {draft : SourceDraft} {record : Source} (copies : record.Copies draft) :
    SourceDraft.form.Alike Source.form "id" draft record := by
  have ttl : toJson draft.ttl = toJson record.ttl := congrArg Json.ofNat copies.ttl.symm
  have payloadType : toJson draft.payloadType = toJson record.payloadType :=
    congrArg Json.ofNat copies.payloadType.symm
  have map : toJson draft.map = toJson record.map := congrArg toJson copies.map.symm
  simp [Record.Alike, form, withDefaults, Source.form, Slot.required_alike, Slot.defaulted_alike,
    Slot.key_alike, ofJson_eq_ok_iff, copies.id, copies.enabled, copies.name, copies.io,
    copies.maxSamplesPerPacket, copies.codec, copies.address, ttl, payloadType, copies.dscp,
    copies.refclkPtpTraceable, map]

theorem SinkDraft.alike (draft : SinkDraft) :
    SinkDraft.form.Alike Sink.form "id" draft draft.toSink := by
  have map : toJson draft.map = toJson draft.map.indices := rfl
  simp [Record.Alike, form, toSink, Sink.form, Slot.required_alike, Slot.key_alike, ofJson_eq_ok_iff,
    map]

/-! ## Either kind -/

namespace StreamKind

instance : (kind : StreamKind) → Wire kind.Draft
  | .source => inferInstanceAs (Wire SourceDraft)
  | .sink => inferInstanceAs (Wire SinkDraft)

instance : (kind : StreamKind) → Wire kind.Record
  | .source => inferInstanceAs (Wire Source)
  | .sink => inferInstanceAs (Wire Sink)

def Fits : (kind : StreamKind) → kind.Draft → Prop
  | .source, draft =>
    (SourceDraft.ttl draft).toNat ≤ 255 ∧ (SourceDraft.payloadType draft).toNat ≤ 255
  | .sink, _ => True

section Documents
variable {kind : StreamKind} {draft : kind.Draft} {record : kind.Record}

theorem write_of_fits (fits : kind.Fits draft) : ∃ record, kind.write draft = .ok record := by
  cases kind with
  | source => exact SourceDraft.toSource_of_le draft fits.1 fits.2
  | sink => exact ⟨_, rfl⟩

theorem toJson_of_write (written : kind.write draft = .ok record) : toJson draft = toJson record := by
  cases kind with
  | source => exact (SourceDraft.alike (SourceDraft.copies_of_toSource written)).toJson_eq
  | sink =>
      cases written
      exact (SinkDraft.alike draft).toJson_eq

/-- The documents of a draft are those of its record that give an id. -/
theorem ofJson_draft_iff (written : kind.write draft = .ok record) (doc : Json) :
    ofJson doc = .ok draft ↔ ofJson doc = .ok record ∧ doc.Gives "id" := by
  cases kind with
  | source =>
      exact (SourceDraft.alike (SourceDraft.copies_of_toSource written)).ofJson_iff
        SourceDraft.form_lawful Source.form_lawful rfl doc
  | sink =>
      cases written
      exact (SinkDraft.alike draft).ofJson_iff SinkDraft.form_lawful Sink.form_lawful rfl doc

end Documents

structure SharesDocuments (kind : StreamKind) : Prop where
  written : ∀ draft : kind.Draft, kind.Fits draft →
    ∃ record, kind.write draft = .ok record ∧ toJson draft = toJson record
  draftRead : ∀ (doc : Json) (draft : kind.Draft), ofJson doc = .ok draft → kind.Fits draft →
    ∃ record, kind.write draft = .ok record ∧ ofJson doc = .ok record
  recordRead : ∀ (doc : Json) (record : kind.Record), ofJson doc = .ok record → doc.Gives "id" →
    (∃ map, ChannelMap.ofIndices (kind.channels record) = .ok map) →
      ∃ draft, kind.read record = .ok draft ∧ ofJson doc = .ok draft

theorem sharesDocuments (kind : StreamKind) : kind.SharesDocuments where
  written draft fits := by
    obtain ⟨record, written⟩ := write_of_fits fits
    exact ⟨record, written, toJson_of_write written⟩
  draftRead doc draft read fits := by
    obtain ⟨record, written⟩ := write_of_fits fits
    exact ⟨record, written, ((ofJson_draft_iff written doc).mp read).1⟩
  recordRead doc record read given run := by
    have same := trip_eq_self_iff.mpr run
    rw [trip] at same
    cases found : kind.read record with
    | error cause => simp [found, bind, Except.bind] at same
    | ok draft =>
        simp only [found, bind, Except.bind] at same
        exact ⟨draft, rfl, (ofJson_draft_iff same doc).mpr ⟨read, given⟩⟩

end StreamKind

/-! ## Bodies with a draft -/

namespace Service

section Descriptions

attribute [local simp] ClockRates.form FormRequest.form

theorem ClockRates.form_lawful : ClockRates.form.Lawful := {}
instance : Faithful ClockRates := ClockRates.form_lawful.faithful

theorem FormRequest.form_lawful {δ : Type} [Wire δ] [Faithful δ] (blank : δ) :
    (FormRequest.form blank).Lawful := {}

end Descriptions

def draftPart? : Json → Option Json
  | .object members => members.lookup "draft"
  | .array items => items.head?
  | _ => none

theorem draftPart?_of_ofJson {δ : Type} [Wire δ] [Faithful δ] {blank : δ} {doc : Json}
    {request : FormRequest δ} (read : (FormRequest.form blank).ofJson doc = .ok request) :
    ∃ part, draftPart? doc = some part ∧ ofJson part = .ok request.draft := by
  obtain ⟨members, found, reads⟩ :=
    (Record.ofJson_eq_ok_iff (FormRequest.form_lawful blank) doc request).mp read
  have member : Slot.required "draft" FormRequest.draft ({ · with draft := · }) ∈
      (FormRequest.form blank).slots := List.mem_cons_self
  obtain ⟨part, given, holds⟩ := reads.part member rfl
  refine ⟨part, ?_, (Slot.required_holds_iff _ (fun _ _ => rfl) (fun _ => rfl) part request).mp holds⟩
  cases doc with
  | object members =>
      cases found
      exact given
  | array items =>
      simp only [Record.members?] at found
      split at found
      · cases found
        cases items with
        | nil => cases given
        | cons item items => exact given
      · cases found
  | _ => cases found

def SaysValid (response : Http.Response) : Prop :=
  ∃ document, response.body = .json document ∧
    (document.field? "data").bind (Json.field? "valid") = some (.bool true)

theorem not_saysValid_badRequest (error : String) : ¬ SaysValid (Reply.badRequest error).response := by
  rintro ⟨document, same, valid⟩
  cases same
  simp [Reply.document, Json.field?] at valid

theorem ok_of_answerBody {α : Type} {body : Except BodyFault α} {answer : α → Reply}
    (answered : SaysValid (Endpoint.answerBody body answer).response) :
    ∃ value, body = .ok value ∧ SaysValid (answer value).response := by
  cases body with
  | error fault => exact absurd answered (not_saysValid_badRequest _)
  | ok value => exact ⟨value, rfl, answered⟩

theorem ofJson_of_readBody {α : Type} [Wire α] {request : Http.Request} {value : α}
    (taken : readBody α request = .ok value) : ofJson (read request.body).root = .ok value := by
  rw [readBody] at taken
  split at taken
  · cases taken
  · split at taken
    · next found =>
        cases taken
        exact found
    · cases taken
    · cases taken

theorem valid_of_answerForm {δ : Type} [StreamDraft δ] {state : State} {request : FormRequest δ}
    (answered : SaysValid (Endpoint.answerForm state request).response) :
    ∃ context, (StreamDraft.validate request.draft context).isValid = true := by
  rw [Endpoint.answerForm] at answered
  split at answered
  · exact absurd answered (not_saysValid_badRequest _)
  · next clock found =>
      obtain ⟨document, same, valid⟩ := answered
      cases same
      refine ⟨{ clock, budget := state.budget }, ?_⟩
      show (EditForm.start request.mode request.draft _).constraints.validation.isValid = true
      simpa [Reply.document, Json.field?, FormConstraints.toJson] using valid

theorem respond_source (console : Console) {request : Http.Request}
    (posted : request.method = "POST") (path : request.target.path = "/api/calc/source".toList) :
    console.respond request =
      (Endpoint.answerBody (readBody (FormRequest SourceDraft) request)
        (Endpoint.answerForm console.state)).response := by
  have answered : console.respond request = Endpoint.source.respond console.state request :=
    Endpoint.respond_eq console trivial path posted
  rw [answered]
  rfl

/-- A source that the service says is valid stands in the body as the record that it is written to. -/
theorem record_of_valid {console : Console} {request : Http.Request} (posted : request.method = "POST")
    (path : request.target.path = "/api/calc/source".toList)
    (answered : SaysValid (console.respond request)) :
    ∃ part record, draftPart? (read request.body).root = some part ∧
      (∃ draft, ofJson part = .ok draft ∧ SourceDraft.toSource draft = .ok record) ∧
      ofJson part = .ok record := by
  rw [respond_source console posted path] at answered
  obtain ⟨form, taken, stated⟩ := ok_of_answerBody answered
  obtain ⟨context, valid⟩ := valid_of_answerForm stated
  obtain ⟨record, written, -⟩ :=
    ((SourceDraft.isValid_iff_acceptable form.draft context).mp valid).toSource
  obtain ⟨part, found, decoded⟩ := draftPart?_of_ofJson (ofJson_of_readBody taken)
  exact ⟨part, record, found, ⟨form.draft, decoded, written⟩,
    ((@StreamKind.ofJson_draft_iff .source _ _ written part).mp decoded).1⟩

instance : Faithful (FormRequest SourceDraft) :=
  (FormRequest.form_lawful (SourceDraft.withDefaults 0)).faithful

theorem readBody_write {α : Type} [Wire α] [Faithful α] (request : Http.Request) (value : α)
    (announced : Http.announcesJson request.contentType = true)
    (body : request.body = (toJson value).write) : readBody α request = .ok value := by
  rw [readBody, announced, body, read_write (Faithful.legible value), ofJson_toJson]
  rfl

end Service

/-- A draft and its record have the same documents, and a source that the service says is valid is, as
it stands in the body, a record. -/
theorem drafts_share_documents :
    (∀ kind : StreamKind, kind.SharesDocuments) ∧
    ∀ (console : Service.Console) (request : Http.Request), request.method = "POST" →
      request.target.path = "/api/calc/source".toList →
      Service.SaysValid (console.respond request) →
        ∃ part record, Service.draftPart? (read request.body).root = some part ∧
          (∃ draft, ofJson part = .ok draft ∧ SourceDraft.toSource draft = .ok record) ∧
          ofJson part = .ok record :=
  ⟨StreamKind.sharesDocuments, fun _ _ posted path answered =>
    Service.record_of_valid posted path answered⟩

namespace Service

def newSource : FormRequest SourceDraft where
  draft := .withDefaults 3
  clock := { sampleRate := 48000, ticFrameSize := 48 }
  mode := .add

def newSourceRequest : Http.Request where
  method := "POST"
  target := ⟨"/api/calc/source".toList, []⟩
  contentType := some "application/json"
  body := (toJson newSource).write

theorem saysValid_newSource :
    SaysValid (Console.respond ⟨.ofSettings .default, none⟩ newSourceRequest) := by
  rw [respond_source _ rfl rfl, readBody_write newSourceRequest newSource (by decide) rfl]
  exact ⟨_, rfl, rfl⟩

end Service

def listedSink : Json :=
  .array [.integer 5, .string "Monitor", .string "hw:1", .bool true, .string "", .string "v=0",
    .integer 192, .bool false, .array [.integer 10, .integer 11]]

theorem newSource_shares_document :
    (Service.SaysValid (Service.Console.respond ⟨.ofSettings .default, none⟩ Service.newSourceRequest) ∧
      ∃ part record, Service.draftPart? (read Service.newSourceRequest.body).root = some part ∧
        (∃ draft, ofJson part = .ok draft ∧ SourceDraft.toSource draft = .ok record) ∧
        ofJson part = .ok record) ∧
    ∃ sink : Sink, ofJson listedSink = .ok sink ∧ listedSink.Gives "id" ∧
      (∃ map, ChannelMap.ofIndices sink.map = .ok map) ∧
        ∃ draft, SinkDraft.ofSink sink = .ok draft ∧ ofJson listedSink = .ok draft := by
  refine ⟨⟨Service.saysValid_newSource,
    drafts_share_documents.2 _ _ rfl rfl Service.saysValid_newSource⟩, ?_⟩
  have read : ofJson listedSink = (.ok ⟨5, "Monitor", "hw:1", true, "", "v=0", 192, false, [10, 11]⟩ :
      Except Fault Sink) := rfl
  have given : listedSink.Gives "id" := nofun
  have run : ∃ map, ChannelMap.ofIndices [10, 11] = .ok map := ⟨_, rfl⟩
  exact ⟨_, read, given, run, (drafts_share_documents.1 .sink).recordRead _ _ read given run⟩

end NetAudio
