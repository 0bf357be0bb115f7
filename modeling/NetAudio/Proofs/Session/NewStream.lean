import NetAudio.Proofs.Session.Submit
import NetAudio.Proofs.Stream.Identity

/-!
# New streams

A new stream gets the smallest id that its daemon leaves free.  As long as the form keeps to that id, a
submit that ends in submitted adds one record to the listing and touches no other.
-/

set_option autoImplicit false

namespace NetAudio

def StreamKind.defaults : (kind : StreamKind) → UInt8 → String → kind.Draft
  | .source, id, _ => SourceDraft.withDefaults id
  | .sink, id, baseUrl => SinkDraft.withDefaults id baseUrl

structure IdTable.LeastFree {α : Type} (table : IdTable α) (id : UInt8) : Prop where
  managed : id.toNat ≤ 63
  free : table.get? id = none
  taken : ∀ other < id, ∃ record, table.get? other = some record

structure AddsRecord {kind : StreamKind} (draft : kind.Draft) (id : UInt8)
    (before after : Daemon) (record : kind.Record) : Prop where
  becomes : StreamDraft.toUpdate draft = .ok (kind.update record)
  holds : kind.recordId record = id
  listed : (after.table kind).toList.Perm (record :: (before.table kind).toList)
  found : ∀ key, (after.table kind).get? key =
    if key = id then some record else (before.table kind).get? key
  elsewhere : before.AgreesElsewhere after kind id

theorem IdTable.leastFree_iff {α : Type} {table : IdTable α} {used : List UInt8}
    (listed : ∀ id, id ∈ used ↔ ∃ record, table.get? id = some record) (id : UInt8) :
    firstFreeId used = some id ↔ table.LeastFree id := by
  have free : id ∉ used ↔ table.get? id = none := by
    rw [listed, ← Option.isSome_iff_exists, Option.not_isSome_iff_eq_none]
  rw [firstFreeId_eq_some_iff, free]
  constructor
  · rintro ⟨managed, missing, taken⟩
    exact ⟨Nat.le_of_lt_succ managed, missing, fun other below =>
      (listed other).mp (taken other below)⟩
  · rintro ⟨managed, missing, taken⟩
    exact ⟨Nat.lt_succ_of_le managed, missing, fun other below =>
      (listed other).mpr (taken other below)⟩

theorem addsRecord_of_submitted {kind : StreamKind} {form finished : EditForm kind.Draft}
    {daemon after : Daemon} {id : UInt8} (free : (daemon.table kind).get? id = none)
    (kept : StreamDraft.id form.draft = id)
    (submitted : (form.submit Daemon.send).run daemon = ((.ok .submitted, finished), after)) :
    ∃ record, AddsRecord form.draft id daemon after record := by
  obtain ⟨-, record, becomes, sameId, rfl⟩ := record_of_submitted submitted
  have holds : kind.recordId record = id := sameId.trans kept
  refine ⟨record, becomes, holds, ?_, ?_, ?_⟩
  · rw [daemon.table_withRecord kind record, holds]
    exact IdTable.toList_insert_perm free
  · intro key
    rw [daemon.table_withRecord kind record, holds, IdTable.get?_insert]
  · rw [← holds]
    exact agreesElsewhere_withRecord daemon record

/-- Of every daemon that a run leaves, and of the ids that it lists, in whatever order and however often:
there is a first free id unless all 64 are taken, it is the least that is free, and a form of a new
stream under it adds a record and overwrites none. -/
theorem new_stream_overwrites_nothing (settings : DaemonSettings) (history : List DaemonStep)
    (kind : StreamKind) :
    let daemon := (Daemon.start settings).afterRun history
    let records := (daemon.table kind).toList
    let ids := records.map kind.recordId
    carryOut (Daemon.answer (.listing kind)) daemon = (.ok (.listed kind records), daemon) ∧
      (∀ used : List UInt8, (∀ id, id ∈ used ↔ id ∈ ids) → firstFreeId used = firstFreeId ids) ∧
      (firstFreeId ids = none ↔
        ∀ id : UInt8, id.toNat ≤ 63 → ∃ record, (daemon.table kind).get? id = some record) ∧
      (∀ id, firstFreeId ids = some id ↔ (daemon.table kind).LeastFree id) ∧
      ∀ id, firstFreeId ids = some id →
        ∀ (baseUrl : String) (context : FormContext) (steps : List (FormStep kind)),
          let form := (EditForm.start .add (kind.defaults id baseUrl) context).afterRun steps
          StreamDraft.id form.draft = id → ∀ finished after,
            (form.submit Daemon.send).run daemon = ((.ok .submitted, finished), after) →
              ∃ record, AddsRecord form.draft id daemon after record := by
  intro daemon records ids
  have listed : ∀ id, id ∈ ids ↔ ∃ record, (daemon.table kind).get? id = some record :=
    (Daemon.keyed_afterRun settings history kind).mem_ids_iff
  refine ⟨daemon.carryOut_listing kind, fun _ => firstFreeId_congr, ?_, ?_, ?_⟩
  · simp only [firstFreeId_eq_none_iff, listed, maxStreams, Nat.lt_succ_iff]
  · exact IdTable.leastFree_iff listed
  · intro id first baseUrl context steps form kept finished after submitted
    have least := (IdTable.leastFree_iff listed id).mp first
    exact addsRecord_of_submitted least.free kept submitted

/-- A source beside the sources 0, 1 and 200, under an id that a sink has too. -/
theorem source_joins_scattered_sources :
    let stored (id : UInt8) : Source :=
      ⟨id, true, "Studio", "", 48, .l16, "239.1.0.5", 15, 98, 34, false, [id, 9]⟩
    let history : List DaemonStep := [
      .call (.putSource (stored 200)), .call (.putSource (stored 1)), .call (.putSource (stored 0)),
      .call (.putSink (SinkDraft.withDefaults 2 "").toSink)]
    let daemon := (Daemon.start .blank).afterRun history
    let steps : List (FormStep .source) := [
      .setCodec .l24, .update fun draft => { draft with id := 0 },
      .beginSubmit, .finishSubmit (.error (.rejected 500 "busy")),
      .update fun draft => { draft with id := 2 }, .setStart 20]
    let opened := EditForm.start .add (StreamKind.source.defaults 2 "") ⟨⟨48000, 48, 1⟩, 1440⟩
    let form := opened.afterRun steps
    firstFreeId [1, 200, 0, 1] = some 2 ∧
      ∃ finished after record,
        (form.submit Daemon.send).run daemon = ((.ok .submitted, finished), after) ∧
          AddsRecord form.draft 2 daemon after record := by
  intro stored history daemon steps opened form
  obtain ⟨-, order, -, -, adding⟩ := new_stream_overwrites_nothing .blank history .source
  have first : firstFreeId [0, 1, 200] = some 2 := by decide
  have repeated : firstFreeId [1, 200, 0, 1] = firstFreeId [0, 1, 200] := by
    apply order
    intro id
    show id ∈ [1, 200, 0, 1] ↔ id ∈ [0, 1, 200]
    simp only [List.mem_cons, List.not_mem_nil]
    tauto
  obtain ⟨after, -, submitted, -⟩ :=
    submit_of_clear form daemon (by decide) (Daemon.keyed_afterRun .blank history) rfl
  obtain ⟨record, adds⟩ := adding 2 first "" _ steps (by decide) _ after submitted
  exact ⟨repeated.trans first, _, after, record, submitted, adds⟩

end NetAudio
