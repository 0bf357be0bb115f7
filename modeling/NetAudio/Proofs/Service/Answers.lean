import Mathlib.Logic.Basic
import NetAudio.Proofs.Poll.Pace
import NetAudio.Proofs.Service.Queries
import NetAudio.Proofs.Service.Routes

/-!
# Answers of the service

Each endpoint wraps its answers: a JSON object says whether the request succeeded, and holds either data
or an error text.  The one exception is a query that an endpoint cannot read, which is answered with
plain text.  Where an answer waits for a poller, it does so until a first fetch has succeeded.
-/

set_option autoImplicit false

namespace NetAudio.Service

open Http

/-! ## Wrapped answers -/

structure HoldsData (status : UInt16) (document : Json) : Prop where
  status : status = 200
  success : document.field? "success" = some (.bool true)
  data : ∃ value, document.field? "data" = some value
  error : document.field? "error" = none

structure HoldsError (status : UInt16) (document : Json) : Prop where
  status : status = 400 ∨ status = 503
  success : document.field? "success" = some (.bool false)
  error : ∃ text, document.field? "error" = some (.string text)
  data : document.field? "data" = none

def IsWrapped (response : Response) : Prop :=
  ∃ members, response.body = .json (.object members) ∧
    Xor (HoldsData response.status (.object members)) (HoldsError response.status (.object members))

theorem not_isWrapped_text (status : UInt16) (text : String) : ¬ IsWrapped ⟨status, .text text⟩ :=
  nofun

namespace Reply

theorem holdsData (value : Json) : HoldsData (data value).status (data value).document :=
  ⟨rfl, rfl, ⟨value, rfl⟩, rfl⟩

theorem holdsError_badRequest (error : String) :
    HoldsError (badRequest error).status (badRequest error).document :=
  ⟨.inl rfl, rfl, ⟨error, rfl⟩, rfl⟩

theorem holdsError_unavailable (error : String) :
    HoldsError (unavailable error).status (unavailable error).document :=
  ⟨.inr rfl, rfl, ⟨error, rfl⟩, rfl⟩

theorem isWrapped (reply : Reply) : IsWrapped reply.response := by
  -- No answer holds both, since a request does not both succeed and fail.
  cases reply with
  | data value =>
      refine ⟨_, rfl, .inl ⟨holdsData value, fun both => ?_⟩⟩
      cases both.success
  | badRequest error =>
      refine ⟨_, rfl, .inr ⟨holdsError_badRequest error, fun both => ?_⟩⟩
      cases both.success
  | unavailable error =>
      refine ⟨_, rfl, .inr ⟨holdsError_unavailable error, fun both => ?_⟩⟩
      cases both.success

def IsUnavailable : Reply → Prop
  | unavailable _ => True
  | data _ | badRequest _ => False

theorem status_eq_503_iff (reply : Reply) : reply.response.status = 503 ↔ reply.IsUnavailable := by
  cases reply with
  | unavailable error => exact ⟨fun _ => trivial, fun _ => rfl⟩
  | data value => exact ⟨nofun, nofun⟩
  | badRequest error => exact ⟨nofun, nofun⟩

theorem not_isUnavailable_ofResult (result : Except CalculatorError Json) :
    ¬ (ofResult result).IsUnavailable := by
  cases result <;> exact id

end Reply

/-! ## Pollers behind the service -/

/-- A poller that a service reads, at some instant of its course. -/
structure Feed (α : Type) where
  world : Poller.World α
  period : Nat
  events : List (PollEvent α)
  poller : Poller α
  course : Poller.Course world period events poller

namespace Feed
variable {α : Type}

def landings (feed : Feed α) : List (Snapshot Nat α) := feed.events.filterMap PollEvent.landing?

def shown (feed : Feed α) (moment : Nat → String) : Option (Snapshot String α) :=
  feed.poller.latest.map fun snapshot => ⟨snapshot.value, moment snapshot.fetchedAt⟩

theorem shown_eq_none_iff (feed : Feed α) (moment : Nat → String) :
    feed.shown moment = none ↔ feed.landings = [] := by
  rw [shown, Option.map_eq_none_iff, (Poller.course_accounted feed.course).latest, landings,
    List.getLast?_eq_none_iff]

end Feed

/-- The service as it stands while pollers run that it reads; each of them may be missing. -/
def State.reading (state : State) (moment : Nat → String) (ptp? : Option (Feed PtpStatus))
    (remote? : Option (Feed (List RemoteSource))) : State :=
  { state with
    ptpStatus := ptp?.bind (·.shown moment)
    remoteSources := remote?.bind (·.shown moment) }

namespace Endpoint
variable {state : State}

/-! ## Missing snapshots -/

def Awaits (ptp? : Option (Feed PtpStatus)) (remote? : Option (Feed (List RemoteSource))) :
    Endpoint → Prop
  | .ptpStatus => ∀ feed ∈ ptp?, feed.landings = []
  | .remoteSources => ∀ feed ∈ remote?, feed.landings = []
  | _ => False

def Lacks (state : State) : Endpoint → Prop
  | .ptpStatus => state.ptpStatus = none
  | .remoteSources => state.remoteSources = none
  | _ => False

theorem lacks_reading_iff (endpoint : Endpoint) (state : State) (moment : Nat → String)
    (ptp? : Option (Feed PtpStatus)) (remote? : Option (Feed (List RemoteSource))) :
    endpoint.Lacks (state.reading moment ptp? remote?) ↔ endpoint.Awaits ptp? remote? := by
  have missing {α : Type} (feed? : Option (Feed α)) :
      feed?.bind (·.shown moment) = none ↔ ∀ feed ∈ feed?, feed.landings = [] := by
    simp only [Option.bind_eq_none_iff, Feed.shown_eq_none_iff, Option.mem_def]
  cases endpoint with
  | ptpStatus => exact missing ptp?
  | remoteSources => exact missing remote?
  | _ => exact Iff.rfl

theorem isUnavailable_answerLatest_iff {α : Type} [Json.Wire α]
    (latest : Option (Snapshot String α)) (what : String) :
    (answerLatest latest what).IsUnavailable ↔ latest = none := by
  cases latest with
  | none => exact ⟨fun _ => rfl, fun _ => trivial⟩
  | some snapshot => exact ⟨False.elim, nofun⟩

theorem not_isUnavailable_answerBody {α : Type} {answer : α → Reply}
    (answers : ∀ value, ¬ (answer value).IsUnavailable) (body : Except BodyFault α) :
    ¬ (answerBody body answer).IsUnavailable := by
  cases body with
  | ok value => exact answers value
  | error fault => exact id

theorem not_isUnavailable_answerForm {δ : Type} [StreamDraft δ] (state : State)
    (form : FormRequest δ) : ¬ (answerForm state form).IsUnavailable := by
  rw [answerForm]
  split <;> exact id

theorem not_isUnavailable_query {α : Type} {answer : α → Reply} {reply : Reply}
    (answers : ∀ value, ¬ (answer value).IsUnavailable) {query : Except QueryFault α}
    (replied : (do return answer (← query)) = .ok reply) : ¬ reply.IsUnavailable := by
  cases query with
  | ok value =>
      cases replied
      exact answers value
  | error fault => cases replied

/-- Only a missing snapshot makes an endpoint unavailable. -/
theorem isUnavailable_iff {request : Request} {endpoint : Endpoint} {reply : Reply}
    (replied : endpoint.reply state request = .ok reply) :
    reply.IsUnavailable ↔ endpoint.Lacks state := by
  have never (other : ¬ reply.IsUnavailable) (here : ¬ endpoint.Lacks state) :
      reply.IsUnavailable ↔ endpoint.Lacks state := iff_of_false other here
  cases endpoint with
  | packetOptions | maxChannels | channelMap =>
      exact never (not_isUnavailable_query (fun _ => Reply.not_isUnavailable_ofResult _) replied) id
  | ptpStatus | remoteSources =>
      cases replied
      exact isUnavailable_answerLatest_iff _ _
  | source | sink =>
      cases replied
      exact never (not_isUnavailable_answerBody (not_isUnavailable_answerForm state) _) id
  | settings | ptpSettings =>
      cases replied
      exact never (not_isUnavailable_answerBody (fun _ => id) _) id
  | defaultSource | defaultSink =>
      cases replied
      exact never (Reply.not_isUnavailable_ofResult _) id

/-! ## Answers -/

/-- What an endpoint answers to a query, where these pollers run. -/
structure Answered (ptp? : Option (Feed PtpStatus)) (remote? : Option (Feed (List RemoteSource)))
    (endpoint : Endpoint) (query : List Char) (response : Response) : Prop where
  wrapped_iff : IsWrapped response ↔ endpoint.CanRead query
  plain : ¬ endpoint.CanRead query → response = ⟨400, .text queryMessage⟩
  unavailable_iff : response.status = 503 ↔ endpoint.Awaits ptp? remote?

/-- Each endpoint wraps its answer exactly if it can read the query, and only says that something is
unavailable where no fetch of it has succeeded. -/
theorem readable_queries_get_wrapped_answers (state : State) (moment : Nat → String)
    (ptp? : Option (Feed PtpStatus)) (remote? : Option (Feed (List RemoteSource)))
    (files : Option StaticFiles) (request : Request) (endpoint : Endpoint)
    (named : endpoint.IsNamed) (sent : request.target.path = endpoint.path)
    (declared : request.method = endpoint.method) :
    Answered ptp? remote? endpoint request.target.query
      (Console.respond ⟨state.reading moment ptp? remote?, files⟩ request) := by
  have lacks := lacks_reading_iff endpoint state moment ptp? remote?
  rw [respond_eq ⟨_, files⟩ named sent declared]
  generalize state.reading moment ptp? remote? = current at lacks
  have readable := endpoint.reply_iff current request
  rw [Endpoint.respond]
  cases replied : endpoint.reply current request with
  | ok reply =>
      have can := readable.mp ⟨reply, replied⟩
      refine ⟨iff_of_true reply.isWrapped can, fun cannot => absurd can cannot, ?_⟩
      exact reply.status_eq_503_iff.trans ((isUnavailable_iff replied).trans lacks)
  | error fault =>
      have cannot : ¬ endpoint.CanRead request.target.query := by
        intro can
        obtain ⟨reply, other⟩ := readable.mpr can
        rw [replied] at other
        cases other
      refine ⟨iff_of_false (not_isWrapped_text _ _) cannot, fun _ => rfl, iff_of_false nofun ?_⟩
      -- An endpoint that waits for a poller does not look at the query.
      cases endpoint with
      | ptpStatus | remoteSources => cases replied
      | _ => exact id

end Endpoint

/-! ## Runs -/

def misspeltRequest : Request where
  method := "GET"
  target :=
    ⟨"/api/calc/packet-options".toList, "sample_rate=abc&tic_frame_size_at_1fs=48".toList⟩
  contentType := none
  body := ""

/-- The answer to a misspelt rate is plain text. -/
theorem misspelt_rate_gets_plain_answer :
    misspeltRequest.target.path = Endpoint.packetOptions.path ∧
      misspeltRequest.method = Endpoint.packetOptions.method ∧
      Console.respond ⟨.ofSettings .default, none⟩ misspeltRequest =
        ⟨400, .text "Failed to deserialize query string"⟩ ∧
      ¬ IsWrapped (Console.respond ⟨.ofSettings .default, none⟩ misspeltRequest) := by
  have fields : queryFields misspeltRequest.target.query =
      [("sample_rate", "abc"), ("tic_frame_size_at_1fs", "48")] := by
    decide +kernel
  have misspelt : ClockRates.ofQuery misspeltRequest.target.query =
      .error (.malformed "sample_rate") := by
    rw [ClockRates.ofQuery, fields]
    rfl
  have plain : Console.respond ⟨.ofSettings .default, none⟩ misspeltRequest =
      ⟨400, .text "Failed to deserialize query string"⟩ := by
    have answered : Console.respond ⟨.ofSettings .default, none⟩ misspeltRequest =
        Endpoint.packetOptions.respond (.ofSettings .default) misspeltRequest :=
      Endpoint.respond_eq _ trivial rfl rfl
    rw [answered, Endpoint.respond, Endpoint.reply, misspelt]
    rfl
  refine ⟨rfl, rfl, plain, ?_⟩
  rw [plain]
  exact not_isWrapped_text _ _

def emptyNetwork : Poller.World (List RemoteSource) where
  fetch _ := ⟨5, some []⟩
  ticksFirst _ := false

def landedFeed : Feed (List RemoteSource) where
  world := emptyNetwork
  period := 1000
  events := [.began 0, .ended 5 (some [])]
  poller := _
  course := (Poller.Course.move .start (.begin rfl nofun)).move (.finish 5 (some []) rfl)

def snapshotRequest (path : String) : Request where
  method := "GET"
  target := ⟨path.toList, "any=query".toList⟩
  contentType := none
  body := ""

/-- Sources have been fetched and are answered; no poller asks for the PTP status, so it is missing. -/
theorem snapshots_are_answered_once_fetched :
    let current := State.reading (.ofSettings .default) (fun _ => "") none (some landedFeed)
    ((Console.respond ⟨current, none⟩ (snapshotRequest "/api/remote-sources")).status ≠ 503 ∧
      IsWrapped (Console.respond ⟨current, none⟩ (snapshotRequest "/api/remote-sources"))) ∧
    (Console.respond ⟨current, none⟩ (snapshotRequest "/api/ptp/status")).status = 503 := by
  intro current
  have sources := Endpoint.readable_queries_get_wrapped_answers (.ofSettings .default) (fun _ => "")
    none (some landedFeed) none (snapshotRequest "/api/remote-sources") .remoteSources trivial rfl rfl
  have clock := Endpoint.readable_queries_get_wrapped_answers (.ofSettings .default) (fun _ => "")
    none (some landedFeed) none (snapshotRequest "/api/ptp/status") .ptpStatus trivial rfl rfl
  refine ⟨⟨fun waiting => ?_, sources.wrapped_iff.mpr nofun⟩, clock.unavailable_iff.mpr nofun⟩
  cases sources.unavailable_iff.mp waiting landedFeed rfl

end NetAudio.Service
