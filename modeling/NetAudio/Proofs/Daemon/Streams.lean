import NetAudio.Proofs.Daemon.Run
import NetAudio.Proofs.Daemon.Tables
import NetAudio.Proofs.Stream.Records

/-!
# The streams of a daemon

Sources and sinks are stored, listed and sent in the same way, so what is said here is said of both
kinds at once.  In every run each record stands under the id that it holds.
-/

set_option autoImplicit false

namespace NetAudio

def DaemonCall.listing : StreamKind → DaemonCall
  | .source => .sources
  | .sink => .sinks

def DaemonReply.listed : (kind : StreamKind) → List kind.Record → DaemonReply
  | .source, records => .sources records
  | .sink, records => .sinks records

def StreamUpdate.record? : (kind : StreamKind) → UInt8 → StreamUpdate → Option kind.Record
  | .source, id, .source record => if id = record.id then some record else none
  | .sink, id, .sink record => if id = record.id then some record else none
  | _, _, _ => none

theorem StreamUpdate.record?_of_ne {sent : StreamUpdate} {kind : StreamKind} {id : UInt8}
    (elsewhere : (sent.kind, sent.id) ≠ (kind, id)) : sent.record? kind id = none := by
  cases sent with
  | source record =>
      cases kind with
      | source => exact if_neg fun same => elsewhere (by rw [same]; rfl)
      | sink => rfl
  | sink record =>
      cases kind with
      | source => rfl
      | sink => exact if_neg fun same => elsewhere (by rw [same]; rfl)

namespace Daemon

def table (daemon : Daemon) : (kind : StreamKind) → IdTable kind.Record
  | .source => daemon.sources
  | .sink => daemon.sinks

def withRecord (daemon : Daemon) : (kind : StreamKind) → kind.Record → Daemon
  | .source, record => { daemon with sources := daemon.sources.insert record.id record }
  | .sink, record => { daemon with sinks := daemon.sinks.insert record.id record }

def Keyed (daemon : Daemon) : Prop :=
  ∀ kind, (daemon.table kind).Keyed kind.recordId

section Storing
variable (daemon : Daemon) (kind : StreamKind) (record : kind.Record)

theorem table_withRecord :
    (daemon.withRecord kind record).table kind =
      (daemon.table kind).insert (kind.recordId record) record := by
  cases kind <;> rfl

theorem table_withRecord_of_ne (other : StreamKind) (distinct : other ≠ kind) :
    (daemon.withRecord kind record).table other = daemon.table other := by
  cases kind with
  | source =>
      cases other with
      | source => exact absurd rfl distinct
      | sink => rfl
  | sink =>
      cases other with
      | source => rfl
      | sink => exact absurd rfl distinct

theorem get?_withRecord :
    ((daemon.withRecord kind record).table kind).get? (kind.recordId record) = some record := by
  rw [table_withRecord, IdTable.get?_insert, if_pos rfl]

/-- Under every other id, and in the table of the other kind, the same is found. -/
theorem get?_withRecord_of_ne (other : StreamKind) (id : UInt8)
    (elsewhere : (other, id) ≠ (kind, kind.recordId record)) :
    ((daemon.withRecord kind record).table other).get? id = (daemon.table other).get? id := by
  by_cases same : other = kind
  · subst same
    have distinct : id ≠ other.recordId record := by
      intro equal
      exact elsewhere (by rw [equal])
    rw [table_withRecord, IdTable.get?_insert, if_neg distinct]
  · rw [table_withRecord_of_ne daemon kind record other same]

theorem refusal_withRecord : (daemon.withRecord kind record).refusal = daemon.refusal := by
  cases kind <;> rfl

theorem withRecord_of_stored
    (stored : (daemon.table kind).get? (kind.recordId record) = some record) :
    daemon.withRecord kind record = daemon := by
  cases kind with
  | source =>
      have same : daemon.sources.insert record.id record = daemon.sources :=
        IdTable.insert_of_get? stored
      rw [withRecord, same]
  | sink =>
      have same : daemon.sinks.insert record.id record = daemon.sinks :=
        IdTable.insert_of_get? stored
      rw [withRecord, same]

end Storing

def store (daemon : Daemon) : StreamUpdate → Daemon
  | .source record => daemon.withRecord .source record
  | .sink record => daemon.withRecord .sink record

theorem store_update (daemon : Daemon) (kind : StreamKind) (record : kind.Record) :
    daemon.store (kind.update record) = daemon.withRecord kind record := by
  cases kind <;> rfl

theorem get?_store (daemon : Daemon) (sent : StreamUpdate) (kind : StreamKind) (id : UInt8) :
    ((daemon.store sent).table kind).get? id =
      (sent.record? kind id).or ((daemon.table kind).get? id) := by
  have inserted {α : Type} (table : IdTable α) (key : UInt8) (record : α) :
      (table.insert key record).get? id =
        (if id = key then some record else none).or (table.get? id) := by
    rw [IdTable.get?_insert]
    split <;> rfl
  cases sent with
  | source record =>
      cases kind with
      | source => exact inserted daemon.sources record.id record
      | sink => rfl
  | sink record =>
      cases kind with
      | source => rfl
      | sink => exact inserted daemon.sinks record.id record

/-! ## Records under their ids -/

theorem keyed_start (settings : DaemonSettings) : (start settings).Keyed := by
  intro kind
  cases kind with
  | source => exact IdTable.keyed_empty _
  | sink => exact IdTable.keyed_empty _

theorem Keyed.withRecord {daemon : Daemon} (keyed : daemon.Keyed) (kind : StreamKind)
    (record : kind.Record) : (daemon.withRecord kind record).Keyed := by
  intro other
  by_cases same : other = kind
  · subst same
    rw [table_withRecord]
    exact (keyed other).insert record
  · rw [table_withRecord_of_ne daemon kind record other same]
    exact keyed other

theorem keyed_move {daemon after : Daemon} {step : DaemonStep}
    {answer : Except DaemonError DaemonReply} (keyed : daemon.Keyed)
    (move : DaemonMove daemon step answer after) : after.Keyed := by
  cases move with
  | putSource record clear => exact keyed.withRecord .source record
  | putSink record clear => exact keyed.withRecord .sink record
  | deleteSource id clear found =>
      intro kind
      cases kind with
      | source => exact (keyed .source).erase id
      | sink => exact keyed .sink
  | deleteSink id clear found =>
      intro kind
      cases kind with
      | source => exact keyed .source
      | sink => exact (keyed .sink).erase id
  | _ => exact keyed

theorem keyed_afterRun (settings : DaemonSettings) (history : List DaemonStep) :
    ((start settings).afterRun history).Keyed :=
  run_invariant perform_daemon_moves (fun _ _ _ _ => keyed_move) history _
    (keyed_start settings)

/-! ## Listing and sending -/

theorem carryOut_listing (daemon : Daemon) (kind : StreamKind) :
    carryOut (answer (.listing kind)) daemon =
      (.ok (.listed kind (daemon.table kind).toList), daemon) := by
  cases kind <;> rfl

theorem send_run (sent : StreamUpdate) (daemon : Daemon) :
    (send sent).run daemon =
      ((carryOut (answer sent.call) daemon).1.map fun _ => (),
        (carryOut (answer sent.call) daemon).2) := by
  simp only [send, StateT.run, carryOut]
  cases (answer sent.call).run daemon <;> rfl

theorem carryOut_put (daemon : Daemon) (kind : StreamKind) (record : kind.Record)
    (clear : daemon.refusal = none) :
    carryOut (answer (kind.update record).call) daemon =
      (.ok .done, daemon.withRecord kind record) := by
  cases kind with
  | source => exact carryOut_putSource record clear
  | sink => exact carryOut_putSink record clear

theorem send_of_clear (daemon : Daemon) (kind : StreamKind) (record : kind.Record)
    (clear : daemon.refusal = none) :
    (send (kind.update record)).run daemon = (.ok (), daemon.withRecord kind record) := by
  rw [send_run, daemon.carryOut_put kind record clear]
  rfl

theorem send_eq_store (daemon : Daemon) (sent : StreamUpdate) (clear : daemon.refusal = none) :
    (send sent).run daemon = (.ok (), daemon.store sent) := by
  cases sent with
  | source record => exact daemon.send_of_clear .source record clear
  | sink record => exact daemon.send_of_clear .sink record clear

theorem send_of_refusal (daemon : Daemon) (sent : StreamUpdate) {status : UInt16}
    {body : String} (armed : daemon.refusal = some (status, body)) :
    (send sent).run daemon =
      (.error (.rejected status body), { daemon with refusal := none }) := by
  have writes : sent.call.isWrite = true := by cases sent <;> rfl
  rw [send_run, carryOut_write_of_refusal sent.call writes armed]
  rfl

end Daemon

end NetAudio
