import NetAudio.Proofs.ChannelMap.Words
import NetAudio.Proofs.Form.Run
import NetAudio.Proofs.Stream.Retraction

/-!
# Maps keep to their bank

A map is obtained by one of the operations that make maps, and from other maps by moving and resizing
them; a `MapTerm` is such a way, with words and bytes as arguments.  Whichever way is taken, computing
it on words gives the bytes of the map itself, a run of channels in the bank, and no sum leaves its word
and no channel is cut off on the way.  The maps of drafts and of forms are obtained in these ways.
-/

set_option autoImplicit false

namespace NetAudio

def IsRun (bytes : List UInt8) : Prop :=
  ∃ start count, 1 ≤ count ∧ count ≤ 64 ∧ start + count ≤ 64 ∧
    bytes.map UInt8.toNat = List.range' start count

theorem ChannelMap.isRun_indices (map : ChannelMap) : IsRun map.indices :=
  ⟨map.start, map.count, map.countable.1, map.countable.2, map.fits, map.toNat_indices⟩

/-- The failures that no operation names: they would pass unnoticed where words wrap. -/
def WordFailure.isFault : WordFailure → Bool
  | .overflow | .truncation => true
  | .refused _ | .unreadable _ => false

/-! ## Ways to obtain a map -/

inductive MapTerm where
  | contiguous (count start : UInt64)
  | ofIndices (bytes : List UInt8) (held : ByteMap.Held bytes)
  | decoded (doc : Json)
      (held : ∀ bytes : List UInt8, Json.ofJson doc = .ok bytes → ByteMap.Held bytes)
  | anchored (bytes : List UInt8) (held : ByteMap.Held bytes)
  | ofRecord (bytes : List UInt8) (held : ByteMap.Held bytes)
  | stereoPair (id : UInt8)
  | withStart (previous : MapTerm) (start : UInt64)
  | resized (previous : MapTerm) (count : UInt64)

namespace MapTerm

def map : MapTerm → Except WordFailure ChannelMap
  | contiguous count start =>
      (ChannelMap.contiguous count.toNat start.toNat).mapError .refused
  | ofIndices bytes _ => (ChannelMap.ofIndices bytes).mapError .refused
  | decoded doc _ => (Json.ofJson doc : Except Json.Fault ChannelMap).mapError .unreadable
  | anchored bytes _ => (ChannelMap.anchored bytes).mapError .refused
  | ofRecord bytes _ => (ChannelMap.ofRecord bytes).mapError .refused
  | stereoPair id => .ok (ChannelMap.stereoPair id)
  | withStart previous start => do
      let before ← previous.map
      (before.withStart start.toNat).mapError .refused
  | resized previous count => do
      let before ← previous.map
      (before.resized count.toNat).mapError .refused

/-- The same, computed on words. -/
def bytes : MapTerm → Except WordFailure (List UInt8)
  | contiguous count start => ByteMap.contiguous count start
  | ofIndices bytes _ => ByteMap.ofIndices bytes
  | decoded doc _ => ByteMap.decoded doc
  | anchored bytes _ => ByteMap.anchored bytes
  | ofRecord bytes _ => ByteMap.ofRecord bytes
  | stereoPair id => ByteMap.stereoPair id
  | withStart previous start => do
      let before ← previous.bytes
      ByteMap.withStart before start
  | resized previous count => do
      let before ← previous.bytes
      ByteMap.resized before count

theorem bytes_eq (term : MapTerm) : term.bytes = term.map.map ChannelMap.indices := by
  -- A map that is moved or resized was obtained before, so by induction its bytes are those of a map.
  induction term with
  | contiguous count start => exact ByteMap.contiguous_eq count start
  | ofIndices bytes held => exact ByteMap.ofIndices_eq bytes held
  | decoded doc held => exact ByteMap.decoded_eq doc held
  | anchored bytes held => exact ByteMap.anchored_eq bytes held
  | ofRecord bytes held => exact ByteMap.ofRecord_eq bytes held
  | stereoPair id => exact ByteMap.stereoPair_eq id
  | withStart previous start ih =>
      rw [bytes, map, ih]
      cases previous.map with
      | error failure => rfl
      | ok before => exact ByteMap.withStart_eq before start
  | resized previous count ih =>
      rw [bytes, map, ih]
      cases previous.map with
      | error failure => rfl
      | ok before => exact ByteMap.resized_eq before count

theorem isFault_of_mapError {ε α : Type} {name : ε → WordFailure}
    (harmless : ∀ cause, (name cause).isFault = false) {result : Except ε α}
    {failure : WordFailure} (failed : result.mapError name = .error failure) :
    failure.isFault = false := by
  cases result with
  | ok value => cases failed
  | error cause =>
      cases failed
      exact harmless cause

theorem isFault_of_change {before : Except WordFailure ChannelMap}
    {change : ChannelMap → Except CalculatorError ChannelMap} {failure : WordFailure}
    (earlier : ∀ failure, before = .error failure → failure.isFault = false)
    (failed : (before >>= fun map => (change map).mapError .refused) = .error failure) :
    failure.isFault = false := by
  cases before with
  | error cause =>
      cases failed
      exact earlier _ rfl
  | ok map => exact isFault_of_mapError (fun _ => rfl) failed

theorem map_faultless (term : MapTerm) (failure : WordFailure)
    (failed : term.map = .error failure) : failure.isFault = false := by
  induction term generalizing failure with
  | stereoPair id => cases failed
  | withStart previous start ih => exact isFault_of_change ih failed
  | resized previous count ih => exact isFault_of_change ih failed
  | _ => exact isFault_of_mapError (fun _ => rfl) failed

structure KeepsToBank (term : MapTerm) : Prop where
  exact : term.bytes = term.map.map ChannelMap.indices
  faultless : ∀ failure, term.bytes = .error failure → failure.isFault = false
  run : ∀ bytes, term.bytes = .ok bytes → IsRun bytes

theorem keepsToBank (term : MapTerm) : term.KeepsToBank where
  exact := term.bytes_eq
  faultless := by
    intro failure failed
    rw [bytes_eq] at failed
    cases obtained : term.map with
    | ok map =>
        rw [obtained] at failed
        cases failed
    | error cause =>
        rw [obtained] at failed
        cases failed
        exact term.map_faultless _ obtained
  run := by
    intro bytes computed
    rw [bytes_eq] at computed
    cases obtained : term.map with
    | ok map =>
        rw [obtained] at computed
        cases computed
        exact map.isRun_indices
    | error cause =>
        rw [obtained] at computed
        cases computed

end MapTerm

/-- Where a run is made, and which of two refusals comes first. -/
structure ChannelMap.ContiguousExact (count start : Nat) : Prop where
  made : (∃ map, contiguous count start = .ok map) ↔
    (1 ≤ count ∧ count ≤ 64) ∧ start ≤ 64 - count
  channels : ∀ map, contiguous count start = .ok map →
    map.indices.map UInt8.toNat = List.range' start count
  uncountable : ¬ (1 ≤ count ∧ count ≤ 64) →
    contiguous count start = .error (.invalidChannelCount count)
  overflow : 1 ≤ count ∧ count ≤ 64 → ¬ start ≤ 64 - count →
    contiguous count start = .error (.mapOverflow start count 64)

theorem ChannelMap.contiguousExact (count start : Nat) : ContiguousExact count start where
  made := by
    constructor
    · rintro ⟨map, taken⟩
      obtain ⟨rfl, rfl⟩ := (contiguous_eq_ok_iff count start map).mp taken
      have bank := map.fits
      exact ⟨map.countable, by simp only [bankSize] at bank; omega⟩
    · rintro ⟨counted, room⟩
      obtain ⟨map, taken, -, -⟩ := contiguous_of_fits count start counted room
      exact ⟨map, taken⟩
  channels := by
    intro map taken
    obtain ⟨rfl, rfl⟩ := (contiguous_eq_ok_iff count start map).mp taken
    exact map.toNat_indices
  uncountable := contiguous_of_uncountable count start
  overflow := contiguous_of_overflow count start

/-! ## The maps of forms -/

namespace EditForm

section Forms
variable {kind : StreamKind}

/-- An action puts the map of these bytes in the place of the draft's, or fails for the cause that the
computation names.  No action does what a fault stands for. -/
def TakesBytes (form : EditForm kind.Draft) (action : FormAction ConsoleError kind.Draft Unit) :
    Except WordFailure (List UInt8) → Prop
  | .ok bytes => ∃ map : ChannelMap, map.indices = bytes ∧ carryOut action form =
      (.ok (), { form with draft := StreamDraft.withMap form.draft map })
  | .error (.refused cause) => carryOut action form = (.error (.calculator cause), form)
  | .error _ => False

theorem takesBytes_changeMap (form : EditForm kind.Draft) (editing : form.state = .editing)
    (change : ChannelMap → Except CalculatorError ChannelMap) :
    form.TakesBytes (changeMap change) (ByteMap.told (change (StreamDraft.map form.draft))) := by
  have run := carryOut_changeMap change form
  rw [if_pos editing] at run
  cases changed : change (StreamDraft.map form.draft) with
  | ok map =>
      rw [changed] at run
      exact ⟨map, rfl, run⟩
  | error cause =>
      rw [changed] at run
      exact run

structure KeepsToBank (form : EditForm kind.Draft) : Prop where
  run : IsRun (StreamDraft.map form.draft).indices
  channels : form.state = .editing → ∀ count : UInt64,
    form.TakesBytes (setChannels count.toNat)
      (ByteMap.resized (StreamDraft.map form.draft).indices count)
  start : form.state = .editing → ∀ start : UInt64,
    form.TakesBytes (setStart start.toNat)
      (ByteMap.withStart (StreamDraft.map form.draft).indices start)

theorem keepsToBank (form : EditForm kind.Draft) : form.KeepsToBank where
  run := ChannelMap.isRun_indices _
  channels := by
    intro editing count
    rw [ByteMap.resized_eq]
    exact form.takesBytes_changeMap editing _
  start := by
    intro editing start
    rw [ByteMap.withStart_eq]
    exact form.takesBytes_changeMap editing _

end Forms

end EditForm

theorem map_of_read {kind : StreamKind} {record : kind.Record} {draft : kind.Draft}
    (read : kind.read record = .ok draft) :
    ∃ held, (MapTerm.ofRecord (kind.channels record) held).map =
      .ok (StreamDraft.map draft) := by
  cases loaded : ChannelMap.ofRecord (kind.channels record) with
  | error cause =>
      rw [StreamKind.read_of_error loaded] at read
      cases read
  | ok map =>
      obtain ⟨same, found, holds, -⟩ := StreamKind.read_of_map loaded
      rw [found] at read
      cases read
      -- A list that is too long to be held is not loaded.
      have held : ByteMap.Held (kind.channels record) := by
        have taken := loaded
        rw [ChannelMap.ofRecord_eq_anchored] at taken
        by_cases counted : ChannelMap.Countable (kind.channels record).length
        · have size : bankSize < UInt64.size := by decide
          exact Nat.lt_of_le_of_lt counted.2 size
        · rw [ChannelMap.anchored_of_uncountable _ counted] at taken
          cases taken
      refine ⟨held, ?_⟩
      rw [MapTerm.map, loaded, holds]
      rfl

/-- Every way to obtain a map gives a run of channels in the bank, and computing it on words neither
overflows nor cuts a channel off; a run is made exactly where it fits.  The drafts of new streams and of
stored ones hold such maps, and so does every form, whatever was done to it. -/
theorem maps_keep_to_bank :
    (∀ term : MapTerm, term.KeepsToBank) ∧
      (∀ count start, ChannelMap.ContiguousExact count start) ∧
      (∀ id, (MapTerm.stereoPair id).map = .ok (SourceDraft.withDefaults id).map ∧
        ∀ baseUrl, (MapTerm.stereoPair id).map = .ok (SinkDraft.withDefaults id baseUrl).map) ∧
      (∀ (kind : StreamKind) (record : kind.Record) (draft : kind.Draft),
        kind.read record = .ok draft →
          ∃ held, (MapTerm.ofRecord (kind.channels record) held).map =
            .ok (StreamDraft.map draft)) ∧
      ∀ (kind : StreamKind) (mode : EditMode) (draft : kind.Draft) (context : FormContext)
        (steps : List (FormStep kind)),
          ((EditForm.start mode draft context).afterRun steps).KeepsToBank :=
  ⟨MapTerm.keepsToBank, ChannelMap.contiguousExact, fun _ => ⟨rfl, fun _ => rfl⟩,
    fun _ _ _ => map_of_read, fun _ _ _ _ _ => EditForm.keepsToBank _⟩

end NetAudio
