import NetAudio.Client.Rest
import NetAudio.Proofs.Client.Paths
import NetAudio.Proofs.Daemon.Run
import NetAudio.Proofs.Wire.Documents

/-!
# What answers mean

The status and the text of an answer decide what a call comes to: a refusal by its status, a write that
was carried out, a reply that was read from the text, or a text that holds no such reply.
-/

set_option autoImplicit false

namespace NetAudio

open Json

namespace DaemonCall

/-- What a call reads from JSON: the type of the document, and the reply that its value means. -/
def document? : DaemonCall → Option ((type : DocumentType) × (type.Value → DaemonReply))
  | .settings => some ⟨.settings, .settings⟩
  | .version => some ⟨.version, .version⟩
  | .ptpSettings => some ⟨.ptpSettings, .ptpSettings⟩
  | .ptpStatus => some ⟨.ptpStatus, .ptpStatus⟩
  | .sources => some ⟨.sourceList, fun list => .sources list.sources⟩
  | .sinks => some ⟨.sinkList, fun list => .sinks list.sinks⟩
  | .streams => some ⟨.streamList, .streams⟩
  | .sinkStatus _ => some ⟨.sinkStatus, .sinkStatus⟩
  | .remoteSources => some ⟨.remoteSourceList, fun list => .remoteSources list.remoteSources⟩
  | _ => none

theorem writes_or_reads (call : DaemonCall) :
    call.isWrite = true ∨ (∃ type means, call.document? = some ⟨type, means⟩) ∨
      ∃ id, call = .sourceSdp id := by
  cases call with
  | sourceSdp id => exact .inr (.inr ⟨id, rfl⟩)
  | setSettings _ | setPtpSettings _ | putSource _ | deleteSource _ | putSink _ | deleteSink _ =>
      exact .inl rfl
  | _ => exact .inr (.inl ⟨_, _, rfl⟩)

end DaemonCall

/-! ## Causes that name a path -/

def beforeColon : List Char → List Char
  | [] => []
  | c :: rest => if c = ':' ∧ rest.head? = some ' ' then [] else c :: beforeColon rest

theorem beforeColon_append {subject : List Char} (absent : ':' ∉ subject) (rest : List Char) :
    beforeColon (subject ++ ':' :: ' ' :: rest) = subject := by
  induction subject with
  | nil => simp [beforeColon]
  | cons c subject ih =>
      simp only [List.mem_cons, not_or] at absent
      have other : c ≠ ':' := Ne.symm absent.1
      rw [List.cons_append, beforeColon, if_neg (fun mark => other mark.1), ih absent.2]

theorem beforeColon_path (call : DaemonCall) (cause : String) :
    beforeColon (call.path ++ ": " ++ cause).toList = call.path.toList := by
  have absent : ':' ∉ call.path.toList := call.plain_path.not_mem (by decide)
  rw [String.toList_append, String.toList_append, List.append_assoc]
  exact beforeColon_append absent cause.toList

example : beforeColon ((DaemonCall.sinkStatus 7).path ++ ": " ++ "EOF: at 0").toList =
    "/sink/status/7".toList := by decide

/-! ## Texts -/

namespace Incoming
variable {answer : Incoming} {call : DaemonCall}

theorem plainContent_of_unmarked (unmarked : answer.content.toList.head? ≠ some '\uFEFF') :
    answer.plainContent = answer.content := by
  rw [plainContent]
  split
  · next rest marked => exact absurd (by rw [marked]; rfl) unmarked
  · rfl

theorem decode_eq_ok_iff {α : Type} [Wire α] (path cause : String) (value : α) :
    answer.decode α path cause = .ok value ↔ ofJson (readWhole answer.content) = .ok value := by
  rw [decode]
  split
  · next read => rw [read, Except.ok.injEq, Except.ok.injEq]
  · next read => simp [read]

theorem decode_of_unread {α : Type} [Wire α]
    (unread : ∀ value : α, ofJson (readWhole answer.content) ≠ .ok value) (path cause : String) :
    answer.decode α path cause = .error (.undecodable (path ++ ": " ++ cause)) := by
  rw [decode]
  split
  · next value read => exact absurd read (unread value)
  · rfl

/-! ## Replies -/

theorem reply_of_document {type : DocumentType} {means : type.Value → DaemonReply}
    (reads : call.document? = some ⟨type, means⟩) (cause : String) :
    answer.reply call cause = (answer.decode type.Value call.path cause).map means := by
  cases call <;> cases reads <;> rfl

theorem reply_of_write (writes : call.isWrite = true) (cause : String) :
    answer.reply call cause = .ok .done := by
  cases call <;> first | rfl | cases writes

theorem isSuccess_iff : answer.isSuccess = true ↔
    200 ≤ answer.status.toNat ∧ answer.status.toNat ≤ 299 := by
  simp [isSuccess, UInt16.le_iff_toNat_le, UInt16.lt_iff_toNat_lt]
  omega

theorem result_of_success (success : answer.isSuccess = true) (cause : String) :
    answer.result call cause = answer.reply call cause := by
  rw [result, if_pos success]

theorem result_of_missing (missing : answer.status = 404) (cause : String) :
    answer.result call cause = .error (.notFound call.path) := by
  have refused : ¬ answer.isSuccess = true := by simp [isSuccess, missing]
  rw [result, if_neg refused, if_pos missing]

theorem result_of_refusal (refused : ¬ answer.isSuccess = true) (found : answer.status ≠ 404)
    (cause : String) :
    answer.result call cause = .error (.rejected answer.status answer.plainContent) := by
  rw [result, if_neg refused, if_neg found]

end Incoming

/-! ## Classification -/

structure DaemonCall.Classified (call : DaemonCall) (answer : Incoming)
    (result : Except DaemonError DaemonReply) : Prop where
  kinds : call.isWrite = true ∨ (∃ type means, call.document? = some ⟨type, means⟩) ∨
    ∃ id, call = .sourceSdp id
  success : (∃ reply, result = .ok reply) →
    200 ≤ answer.status.toNat ∧ answer.status.toNat ≤ 299
  missing : answer.status = 404 → result = .error (.notFound call.path)
  rejected : ¬ (200 ≤ answer.status.toNat ∧ answer.status.toNat ≤ 299) → answer.status ≠ 404 →
    result = .error (.rejected answer.status answer.content)
  written : 200 ≤ answer.status.toNat ∧ answer.status.toNat ≤ 299 → call.isWrite = true →
    result = .ok .done
  read : 200 ≤ answer.status.toNat ∧ answer.status.toNat ≤ 299 →
    ∀ type means, call.document? = some ⟨type, means⟩ →
      (∀ reply, result = .ok reply ↔
        ∃ value, ofJson (readWhole answer.content) = .ok value ∧ reply = means value) ∧
      ((∀ value : type.Value, ofJson (readWhole answer.content) ≠ .ok value) →
        ∃ what, result = .error (.undecodable what) ∧ beforeColon what.toList = call.path.toList)
  announced : 200 ≤ answer.status.toNat ∧ answer.status.toNat ≤ 299 → ∀ id, call = .sourceSdp id →
    result = .ok (.sdp answer.content)
  legible : ∀ id, call = .sourceSdp id → ∀ what, result ≠ .error (.undecodable what)

theorem Incoming.classified (answer : Incoming) (call : DaemonCall) (cause : String)
    (unmarked : answer.content.toList.head? ≠ some '\uFEFF') :
    call.Classified answer (answer.result call cause) := by
  have plain := plainContent_of_unmarked unmarked
  have announced : ∀ id, call = .sourceSdp id → answer.isSuccess = true →
      answer.result call cause = .ok (.sdp answer.content) := by
    rintro id rfl success
    rw [result_of_success success, reply, plain]
  exact {
    kinds := call.writes_or_reads
    success := by
      rintro ⟨reply, replied⟩
      by_contra outside
      have refused : ¬ answer.isSuccess = true := mt isSuccess_iff.mp outside
      by_cases missing : answer.status = 404
      · rw [result_of_missing missing] at replied
        cases replied
      · rw [result_of_refusal refused missing] at replied
        cases replied
    missing := fun missing => result_of_missing missing cause
    rejected := by
      intro outside found
      rw [result_of_refusal (mt isSuccess_iff.mp outside) found, plain]
    written := by
      intro within writes
      rw [result_of_success (isSuccess_iff.mpr within), reply_of_write writes]
    read := by
      intro within type means reads
      rw [result_of_success (isSuccess_iff.mpr within), reply_of_document reads]
      constructor
      · intro reply
        simp only [map_eq_ok_iff, decode_eq_ok_iff, eq_comm (a := reply)]
      · intro unread
        rw [decode_of_unread unread]
        exact ⟨_, rfl, beforeColon_path call cause⟩
    announced := fun within id asked => announced id asked (isSuccess_iff.mpr within)
    legible := by
      intro id asked what told
      by_cases success : answer.isSuccess = true
      · rw [announced id asked success] at told
        cases told
      · by_cases missing : answer.status = 404
        · rw [result_of_missing missing] at told
          cases told
        · rw [result_of_refusal success missing] at told
          cases told }

theorem answers_are_classified (client : RestClient) (network : Network) (call : DaemonCall)
    {outgoing : Outgoing} {answer : Incoming} (sent : client.request? call = some outgoing)
    (arrived : network.answer outgoing = .ok answer)
    (unmarked : answer.content.toList.head? ≠ some '\uFEFF') :
    call.Classified answer (client.call network call) := by
  rw [RestClient.call, sent]
  simp only [arrived]
  exact answer.classified call _ unmarked

def misnamedList : Incoming where
  status := 200
  text := "\x7b\"sources\":[]\x7d"

theorem misnamed_list_is_classified :
    ∃ outgoing, (RestClient.ofUrl "http://127.0.0.1:8080/").request? .remoteSources = some outgoing ∧
      misnamedList.content.toList.head? ≠ some '\uFEFF' ∧
      DaemonCall.Classified .remoteSources misnamedList
        ((RestClient.ofUrl "http://127.0.0.1:8080/").call ⟨fun _ => .ok misnamedList, id, fun _ _ => ""⟩
          .remoteSources) := by
  have unmarked : misnamedList.content.toList.head? ≠ some '\uFEFF' := by decide
  obtain ⟨outgoing, sent⟩ : ∃ outgoing,
      (RestClient.ofUrl "http://127.0.0.1:8080/").request? .remoteSources = some outgoing :=
    Option.isSome_iff_exists.mp (by decide +kernel)
  exact ⟨outgoing, sent, unmarked, answers_are_classified _ _ _ sent rfl unmarked⟩

end NetAudio
