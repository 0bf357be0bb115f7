import NetAudio.Proofs.Client.Answers
import NetAudio.Proofs.Client.Requests
import NetAudio.Proofs.Daemon.Failure

/-!
# A daemon behind a server

A server that conforms carries out the call that a request stands for and puts what the daemon answers
into the answer.  A client of such a server cannot be told from the daemon itself, as long as no refusal
is armed that an answer cannot carry.
-/

set_option autoImplicit false

namespace NetAudio

open Json

/-! ## Servers that conform -/

def DaemonReply.document? : DaemonReply → Option Json
  | .settings value => some (toJson value)
  | .version value => some (toJson value)
  | .ptpSettings value => some (toJson value)
  | .ptpStatus value => some (toJson value)
  | .sources list => some (.object [("sources", toJson list)])
  | .sinks list => some (.object [("sinks", toJson list)])
  | .streams value => some (toJson value)
  | .sinkStatus value => some (toJson value)
  | .remoteSources list => some (.object [("remote_sources", toJson list)])
  | .sdp _ | .done => none

/-- The texts that a reply is sent as.  For a write any text will do. -/
def DaemonReply.SentAs (reply : DaemonReply) (text : String) : Prop :=
  match reply with
  | .done => True
  | .sdp told => text = told
  | reply => ∃ document, reply.document? = some document ∧ text = document.write

theorem DaemonReply.text_of_document {reply : DaemonReply} {document : Json} {text : String}
    (has : reply.document? = some document) (sent : reply.SentAs text) : text = document.write := by
  cases reply with
  | sdp _ | done => cases has
  | _ =>
      obtain ⟨found, same, rfl⟩ := sent
      rw [has] at same
      cases same
      rfl

def Incoming.Carries (answer : Incoming) : Except DaemonError DaemonReply → Prop
  | .ok reply => answer.status = 200 ∧ reply.SentAs answer.text
  | .error (.notFound _) => answer.status = 404
  | .error (.rejected status body) => answer = ⟨status, body⟩
  | .error (.transport _) | .error (.undecodable _) => True

/-- What a server answers to a request, and the daemon behind it that it leaves. -/
abbrev ApiServer := Outgoing → Daemon → Incoming × Daemon

structure ApiServer.Conforms (server : ApiServer) (root : ApiRoot) : Prop where
  answers : ∀ outgoing call, root.call? outgoing = some call → ∀ daemon,
    (server outgoing daemon).1.Carries (carryOut (Daemon.answer call) daemon).1
  leaves : ∀ outgoing call, root.call? outgoing = some call → ∀ daemon,
    (server outgoing daemon).2 = (carryOut (Daemon.answer call) daemon).2

/-- Calls the daemon behind a server; the network does nothing but carry. -/
def RestClient.callOver (client : RestClient) (server : ApiServer) (words : Network)
    (call : DaemonCall) (daemon : Daemon) : Except DaemonError DaemonReply × Daemon :=
  (client.call { words with answer := fun outgoing => .ok (server outgoing daemon).1 } call,
    match client.request? call with
    | some outgoing => (server outgoing daemon).2
    | none => daemon)

/-- A refusal that an answer can carry: an error other than 404, and no text that changes on the way. -/
structure Tellable (status : UInt16) (body : String) : Prop where
  low : 400 ≤ status.toNat
  high : status.toNat ≤ 599
  other : status ≠ 404
  unmarked : body.toList.head? ≠ some '\uFEFF'

def Daemon.Tellable (daemon : Daemon) : Prop :=
  ∀ status body, daemon.refusal = some (status, body) → NetAudio.Tellable status body

/-! ## What a daemon answers -/

namespace Daemon
variable {daemon after : Daemon} {call : DaemonCall}

theorem head_sdpOf (source : Source) (sampleRate : UInt32) :
    (sdpOf source sampleRate).toList.head? = some 'v' := by
  simp [sdpOf, String.toList_append]

/-- A write answers that it is done, a read with a document, and the rest with an SDP text. -/
theorem reply_cases {reply : DaemonReply}
    (answered : carryOut (answer call) daemon = (.ok reply, after)) :
    (call.isWrite = true ∧ reply = .done) ∨
      (∃ type means value, call.document? = some ⟨type, means⟩ ∧ reply = means value ∧
        reply.document? = some (toJson value)) ∨
      ∃ id source rate, call = .sourceSdp id ∧ reply = .sdp (sdpOf source rate) := by
  cases writes : call.isWrite with
  | true =>
      -- Every move that carries out a write answers that it is done.
      have move := perform_daemon_moves (.call call) daemon
      rw [DaemonStep.perform, answered] at move
      refine .inl ⟨rfl, ?_⟩
      cases move with
      | read _ _ reads _ => rw [writes] at reads; cases reads
      | _ => rfl
  | false =>
      cases call with
      | sinkStatus id =>
          cases found : daemon.statusOfSink id with
          | error cause => simp [answer, found] at answered
          | ok status =>
              simp only [answer, carryOut_bind, carryOut_get, found] at answered
              cases answered
              exact .inr (.inl ⟨_, _, _, rfl, rfl, rfl⟩)
      | sourceSdp id =>
          cases found : daemon.sources.get? id with
          | none => simp [answer, sourceSdp, found] at answered
          | some source =>
              simp only [answer, sourceSdp, carryOut_bind, carryOut_get, found] at answered
              cases answered
              exact .inr (.inr ⟨id, source, _, rfl, rfl⟩)
      | setSettings _ | setPtpSettings _ | putSource _ | deleteSource _ | putSink _ | deleteSink _ =>
          cases writes
      | sources =>
          cases answered
          exact .inr (.inl ⟨.sourceList, _, (⟨_⟩ : SourceList), rfl, rfl, rfl⟩)
      | sinks =>
          cases answered
          exact .inr (.inl ⟨.sinkList, _, (⟨_⟩ : SinkList), rfl, rfl, rfl⟩)
      | remoteSources =>
          cases answered
          exact .inr (.inl ⟨.remoteSourceList, _, (⟨_⟩ : RemoteSourceList), rfl, rfl, rfl⟩)
      | _ =>
          cases answered
          exact .inr (.inl ⟨_, _, _, rfl, rfl, rfl⟩)

/-- What a daemon says to have nothing under is the path of the call. -/
theorem cause_cases {cause : DaemonError}
    (failed : carryOut (answer call) daemon = (.error cause, after)) :
    cause = .notFound call.path ∨
      ∃ status body, daemon.refusal = some (status, body) ∧ cause = .rejected status body := by
  cases writes : call.isWrite with
  | true =>
      rcases failed_write_cases writes failed with ⟨status, body, armed, told, -⟩ | ⟨-, told, -⟩
      · exact .inr ⟨status, body, armed, told⟩
      · exact .inl told
  | false =>
      left
      cases call with
      | sinkStatus id =>
          by_cases found : daemon.sinks.contains id
          · simp [answer, statusOfSink, found] at failed
          · simp only [answer, statusOfSink, found, carryOut_bind, carryOut_get] at failed
            cases failed
            rfl
      | sourceSdp id =>
          cases found : daemon.sources.get? id with
          | none =>
              simp only [answer, sourceSdp, carryOut_bind, carryOut_get, found] at failed
              cases failed
              rfl
          | some source => simp [answer, sourceSdp, found] at failed
      | setSettings _ | setPtpSettings _ | putSource _ | deleteSource _ | putSink _ | deleteSink _ =>
          cases writes
      | _ => cases failed

end Daemon

/-! ## What a client makes of it -/

theorem Incoming.isSuccess_of_ok {answer : Incoming} (ok : answer.status = 200) :
    answer.isSuccess = true := by
  simp [isSuccess, ok]

theorem Incoming.content_of_ok {answer : Incoming} (ok : answer.status = 200) :
    answer.content = answer.text := by
  simp [content, isBare, ok]

theorem Incoming.result_of_tellable {status : UInt16} {body : String}
    (tellable : Tellable status body) (call : DaemonCall) (cause : String) :
    (⟨status, body⟩ : Incoming).result call cause = .error (.rejected status body) := by
  have refused : ¬ (⟨status, body⟩ : Incoming).isSuccess = true := by
    intro success
    have within := isSuccess_iff.mp success
    have low := tellable.low
    simp only at within
    omega
  -- The statuses whose answers carry no text are below those of errors.
  have filled : isBare status = false := by
    have low := tellable.low
    rw [isBare, Bool.or_eq_false_iff, decide_eq_false_iff_not, decide_eq_false_iff_not]
    constructor <;> (rintro rfl; simp at low)
  have whole : (⟨status, body⟩ : Incoming).content = body := by
    rw [content, filled]
    rfl
  rw [result_of_refusal refused tellable.other, plainContent_of_unmarked, whole]
  rw [whole]
  exact tellable.unmarked

theorem Incoming.result_of_carries {answer : Incoming} {call : DaemonCall} {daemon : Daemon}
    (tellable : daemon.Tellable)
    (carries : answer.Carries (carryOut (Daemon.answer call) daemon).1) (cause : String) :
    answer.result call cause = (carryOut (Daemon.answer call) daemon).1 := by
  rcases answered : carryOut (Daemon.answer call) daemon with ⟨result, after⟩
  rw [answered] at carries
  cases result with
  | ok reply =>
      obtain ⟨ok, sent⟩ := carries
      rw [result_of_success (isSuccess_of_ok ok)]
      rcases Daemon.reply_cases answered with
        ⟨writes, rfl⟩ | ⟨type, means, value, reads, rfl, document⟩ | ⟨id, source, rate, rfl, rfl⟩
      · exact reply_of_write writes cause
      · have told : ofJson (readWhole answer.content) = .ok value := by
          rw [content_of_ok ok, DaemonReply.text_of_document document sent]
          exact ofJson_readWhole_write value
        rw [reply_of_document reads, (decode_eq_ok_iff call.path cause value).mpr told]
        rfl
      · have announced : answer.content = Daemon.sdpOf source rate := (content_of_ok ok).trans sent
        rw [reply, plainContent_of_unmarked, announced]
        simp [announced, Daemon.head_sdpOf]
  | error told =>
      rcases Daemon.cause_cases answered with rfl | ⟨status, body, armed, rfl⟩
      · exact result_of_missing carries cause
      · cases carries
        exact result_of_tellable (tellable status body armed) call cause

/-! ## A client in place of the daemon -/

namespace RestClient
variable {client : RestClient} {server : ApiServer} {root : ApiRoot}

theorem callOver_eq_carryOut (found : client.root? = some root) (conforms : server.Conforms root)
    (words : Network) (call : DaemonCall) {daemon : Daemon} (tellable : daemon.Tellable) :
    client.callOver server words call daemon = carryOut (Daemon.answer call) daemon := by
  have sent : client.request? call = some (requestOf root call) := request?_of_root found call
  have stands : root.call? (requestOf root call) = some call := call?_requestOf root call
  have carries := conforms.answers _ call stands daemon
  apply Prod.ext
  · rw [callOver, RestClient.call, sent]
    exact Incoming.result_of_carries tellable carries _
  · rw [callOver, sent]
    exact conforms.leaves _ call stands daemon

def performOver (client : RestClient) (server : ApiServer) (words : Network) (step : DaemonStep)
    (daemon : Daemon) : Except DaemonError DaemonReply × Daemon :=
  match step with
  | .call asked => client.callOver server words asked daemon
  | step => step.perform daemon

theorem performOver_eq_perform (found : client.root? = some root)
    (conforms : server.Conforms root) (words : Network) (step : DaemonStep) {daemon : Daemon}
    (tellable : daemon.Tellable) :
    client.performOver server words step daemon = step.perform daemon := by
  cases step with
  | call asked => exact callOver_eq_carryOut found conforms words asked tellable
  | _ => rfl

end RestClient

def ArmsTellable (steps : List DaemonStep) : Prop :=
  ∀ status body, .rejectNext status body ∈ steps → Tellable status body

theorem Daemon.Tellable.perform {daemon : Daemon} (tellable : daemon.Tellable) (step : DaemonStep)
    (arms : ∀ status body, step = .rejectNext status body → NetAudio.Tellable status body) :
    (step.perform daemon).2.Tellable := by
  have move := perform_daemon_moves step daemon
  generalize (step.perform daemon).1 = answer, (step.perform daemon).2 = after at move ⊢
  cases move with
  | rejectNext status body =>
      intro _ _ armed
      cases armed
      exact arms status body rfl
  | refused => intro _ _ armed; cases armed
  | _ => exact tellable

theorem RestClient.run_eq_run {client : RestClient} {server : ApiServer} {root : ApiRoot}
    (found : client.root? = some root) (conforms : server.Conforms root) (words : Network)
    (steps : List DaemonStep) {daemon : Daemon} (tellable : daemon.Tellable)
    (arms : ArmsTellable steps) :
    eventsOf (client.performOver server words) daemon steps =
        eventsOf DaemonStep.perform daemon steps ∧
      stateAfter (client.performOver server words) daemon steps = daemon.afterRun steps := by
  -- The step leaves a refusal that can be carried, so the rest of the run is the same from there too.
  induction steps generalizing daemon with
  | nil => exact ⟨rfl, rfl⟩
  | cons step rest ih =>
      have same := performOver_eq_perform found conforms words step tellable
      have next : (step.perform daemon).2.Tellable := by
        refine tellable.perform step fun status body arming => arms status body ?_
        exact arming ▸ List.mem_cons_self
      obtain ⟨events, state⟩ := ih next fun status body later =>
        arms status body (List.mem_cons_of_mem step later)
      constructor
      · rw [eventsOf, eventsOf, eventOf, eventOf, same, events]
      · rw [stateAfter, same, state]
        rfl

/-- A client of a server that conforms answers every call as the daemon behind the server does and
leaves it the same, at each call and over every run. -/
theorem client_stands_for_daemon (client : RestClient) (server : ApiServer) (words : Network)
    {root : ApiRoot} (found : client.root? = some root) (conforms : server.Conforms root)
    (daemon : Daemon) (tellable : daemon.Tellable) :
    (∀ call, client.callOver server words call daemon = carryOut (Daemon.answer call) daemon) ∧
      ∀ steps, ArmsTellable steps →
        eventsOf (client.performOver server words) daemon steps =
            eventsOf DaemonStep.perform daemon steps ∧
          stateAfter (client.performOver server words) daemon steps = daemon.afterRun steps :=
  ⟨fun call => RestClient.callOver_eq_carryOut found conforms words call tellable,
    fun steps arms => RestClient.run_eq_run found conforms words steps tellable arms⟩

/-! ## A server that conforms -/

def DaemonReply.text : DaemonReply → String
  | .sdp told => told
  | reply => (reply.document?.map Json.write).getD ""

def Incoming.telling : Except DaemonError DaemonReply → Incoming
  | .ok reply => ⟨200, reply.text⟩
  | .error (.notFound _) => ⟨404, ""⟩
  | .error (.rejected status body) => ⟨status, body⟩
  | .error (.transport cause) | .error (.undecodable cause) => ⟨500, cause⟩

theorem Incoming.telling_carries (result : Except DaemonError DaemonReply) :
    (telling result).Carries result := by
  cases result with
  | error cause =>
      cases cause with
      | notFound path => rfl
      | rejected status body => rfl
      | transport told | undecodable told => trivial
  | ok reply =>
      refine ⟨rfl, ?_⟩
      cases reply with
      | done => trivial
      | sdp told => rfl
      | _ => exact ⟨_, rfl, rfl⟩

def ApiRoot.serve (root : ApiRoot) : ApiServer := fun outgoing daemon =>
  match root.call? outgoing with
  | some call =>
    let (result, after) := carryOut (Daemon.answer call) daemon
    (Incoming.telling result, after)
  | none => (⟨400, ""⟩, daemon)

theorem ApiRoot.serve_conforms (root : ApiRoot) : root.serve.Conforms root where
  answers := by
    intro outgoing call stands daemon
    rw [serve, stands]
    exact Incoming.telling_carries _
  leaves := by
    intro outgoing call stands daemon
    rw [serve, stands]

/-- A refusal armed at a daemon comes through a server to its client, and is spent there. -/
theorem armed_refusal_comes_through :
    let client := RestClient.ofUrl "http://127.0.0.1:8080/"
    let words : Network := ⟨fun _ => .error "", id, fun _ _ => ""⟩
    let daemon := (Daemon.start .blank).afterRun [.rejectNext 503 "busy"]
    ∃ root, client.root? = some root ∧ daemon.Tellable ∧ ArmsTellable [.rejectNext 418 "tea"] ∧
      client.callOver root.serve words (.deleteSink 1) daemon =
        (.error (.rejected 503 "busy"), Daemon.start .blank) ∧
      stateAfter (client.performOver root.serve words) daemon [.rejectNext 418 "tea"] =
        daemon.afterRun [.rejectNext 418 "tea"] := by
  intro client words daemon
  obtain ⟨root, found⟩ : ∃ root, client.root? = some root :=
    Option.isSome_iff_exists.mp (by decide +kernel)
  have tellable : daemon.Tellable := by
    intro _ _ armed
    cases armed
    exact ⟨by decide, by decide, by decide, by decide⟩
  have arms : ArmsTellable [.rejectNext 418 "tea"] := by
    intro status body member
    cases List.mem_singleton.mp member
    exact ⟨by decide, by decide, by decide, by decide⟩
  obtain ⟨calls, runs⟩ := client_stands_for_daemon client root.serve words found root.serve_conforms
    daemon tellable
  exact ⟨root, found, tellable, arms, calls (.deleteSink 1), (runs _ arms).2⟩

end NetAudio
