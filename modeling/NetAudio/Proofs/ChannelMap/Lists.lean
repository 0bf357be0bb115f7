import NetAudio.ChannelMap

/-!
# Lists that are taken for channel maps

A list is taken as it stands exactly if it is the channels of a map, that is, if it counts up from its
first channel and stays in the bank.  Of every other list one fault is told: its length, else that it
leaves the bank, else that it does not count up.  Every list that is not empty and not longer than a bank
can be anchored, and anchoring a list that is a run changes nothing; so the list of a record is read by
anchoring it, whichever list it is.
-/

set_option autoImplicit false

namespace NetAudio

namespace ChannelMap

def Countable (count : Nat) : Prop := 0 < count ∧ count ≤ bankSize

instance (count : Nat) : Decidable (Countable count) :=
  inferInstanceAs (Decidable (_ ∧ _))

/-- Each channel is as far above the first one as it stands behind it. -/
def Consecutive (channels : List UInt8) : Prop :=
  ∀ (k : Nat) (inside : k < channels.length), channels[k].toNat = (channels.headD 0).toNat + k

/-- What is wrong with a list of channels; a fault is told only where no earlier one is. -/
inductive ListFault (channels : List UInt8) : CalculatorError → Prop where
  | count (outside : channels = [] ∨ 64 < channels.length) :
      ListFault channels (.invalidChannelCount channels.length)
  | overflow (given : channels ≠ []) (short : channels.length ≤ 64)
      (beyond : 64 < (channels.headD 0).toNat + channels.length) :
      ListFault channels (.mapOverflow (channels.headD 0).toNat channels.length 64)
  | gap (given : channels ≠ []) (fits : (channels.headD 0).toNat + channels.length ≤ 64)
      (broken : ¬ Consecutive channels) :
      ListFault channels (.nonContiguousMap channels)

/-- The start of the run that a list is anchored to. -/
def anchor (channels : List UInt8) : Nat :=
  min (channels.headD 0).toNat (bankSize - channels.length)

theorem countable (map : ChannelMap) : Countable map.count := by
  have positive := map.count_pos
  have bank := map.fits
  exact ⟨positive, by omega⟩

/-! ## Runs by count and start -/

theorem contiguous_eq_ok_iff (count start : Nat) (map : ChannelMap) :
    contiguous count start = .ok map ↔ map.count = count ∧ map.start = start := by
  constructor
  · intro taken
    rw [contiguous] at taken
    split at taken
    · split at taken
      · cases taken
        exact ⟨rfl, rfl⟩
      · cases taken
    · cases taken
  · rintro ⟨rfl, rfl⟩
    exact map.contiguous_count_start

theorem contiguous_of_fits (count start : Nat) (counted : Countable count)
    (room : start ≤ bankSize - count) :
    ∃ map, contiguous count start = .ok map ∧ map.count = count ∧ map.start = start := by
  have both : 0 < count ∧ count ≤ bankSize := counted
  rw [contiguous, dif_pos both, dif_pos room]
  exact ⟨_, rfl, rfl, rfl⟩

/-- The length is looked at first. -/
theorem contiguous_of_uncountable (count start : Nat) (beyond : ¬ Countable count) :
    contiguous count start = .error (.invalidChannelCount count) :=
  dif_neg beyond

theorem contiguous_of_overflow (count start : Nat) (counted : Countable count)
    (beyond : ¬ start ≤ bankSize - count) :
    contiguous count start = .error (.mapOverflow start count bankSize) := by
  have both : 0 < count ∧ count ≤ bankSize := counted
  rw [contiguous, dif_pos both, dif_neg beyond]

theorem checkCount_of_countable {count : Nat} (counted : Countable count) :
    checkCount count = .ok () := by
  obtain ⟨positive, bank⟩ := counted
  rw [checkCount, if_neg]
  omega

theorem checkCount_of_uncountable {count : Nat} (beyond : ¬ Countable count) :
    checkCount count = .error (.invalidChannelCount count) := by
  rw [checkCount, if_pos]
  unfold Countable at beyond
  omega

theorem resized_of_countable (map : ChannelMap) {count : Nat} (counted : Countable count) :
    ∃ resized, map.resized count = .ok resized ∧ resized.count = count ∧
      resized.start = min map.start (bankSize - count) := by
  rw [resized, lastStart, checkCount_of_countable counted]
  exact contiguous_of_fits count _ counted (Nat.min_le_right ..)

theorem resized_of_uncountable (map : ChannelMap) {count : Nat} (beyond : ¬ Countable count) :
    map.resized count = .error (.invalidChannelCount count) := by
  rw [resized, lastStart, checkCount_of_uncountable beyond]
  rfl

/-! ## Runs by their channels -/

theorem head_indices (map : ChannelMap) : (map.indices.headD 0).toNat = map.start := by
  have bytes := map.toNat_indices
  obtain ⟨rest, counted⟩ := Nat.exists_eq_succ_of_ne_zero (Nat.ne_of_gt map.count_pos)
  rw [counted, Nat.succ_eq_add_one, List.range'_succ] at bytes
  cases listed : map.indices with
  | nil =>
      rw [listed] at bytes
      cases bytes
  | cons first others =>
      rw [listed, List.map_cons] at bytes
      exact (List.cons.inj bytes).1

theorem ofIndices_eq {channels : List UInt8} (given : channels ≠ []) :
    ofIndices channels =
      match contiguous channels.length (channels.headD 0).toNat with
      | .ok map => if map.indices = channels then .ok map else .error (.nonContiguousMap channels)
      | .error cause => .error cause := by
  cases channels with
  | nil => exact absurd rfl given
  | cons first rest =>
      simp only [ofIndices, List.headD_cons]
      cases contiguous (first :: rest).length first.toNat with
      | ok map => rfl
      | error cause => rfl

theorem ofIndices_eq_ok_iff (channels : List UInt8) (map : ChannelMap) :
    ofIndices channels = .ok map ↔ map.indices = channels := by
  constructor
  · intro taken
    by_cases given : channels = []
    · rw [given] at taken
      cases taken
    · rw [ofIndices_eq given] at taken
      split at taken
      · split at taken
        · next same =>
            cases taken
            exact same
        · cases taken
      · cases taken
  · intro same
    rw [← same]
    exact map.ofIndices_indices

/-! ## Lists that count up -/

section Lists
variable {channels : List UInt8}

theorem consecutive_iff (channels : List UInt8) :
    Consecutive channels ↔
      channels.map UInt8.toNat = List.range' (channels.headD 0).toNat channels.length := by
  constructor
  · intro counts
    apply List.ext_getElem
    · simp
    · intro k inside _
      rw [List.length_map] at inside
      rw [List.getElem_map, List.getElem_range', counts k inside, Nat.one_mul]
  · intro bytes k inside
    have same := List.getElem_of_eq bytes (i := k) (by rwa [List.length_map])
    rwa [List.getElem_map, List.getElem_range', Nat.one_mul] at same

theorem indices_eq_iff {map : ChannelMap} (counted : map.count = channels.length)
    (started : map.start = (channels.headD 0).toNat) :
    map.indices = channels ↔ Consecutive channels := by
  have bytes : map.indices = channels ↔
      map.indices.map UInt8.toNat = channels.map UInt8.toNat :=
    (List.map_inj_right fun _ _ same => UInt8.toNat_inj.mp same).symm
  rw [bytes, map.toNat_indices, counted, started, consecutive_iff, eq_comm]

theorem not_countable_iff :
    ¬ Countable channels.length ↔ channels = [] ∨ 64 < channels.length := by
  have bank : bankSize = 64 := rfl
  have none : channels = [] ↔ channels.length = 0 := List.length_eq_zero_iff.symm
  rw [none, Countable]
  omega

/-! ## What the strict reader does -/

theorem ofIndices_of_uncountable (beyond : ¬ Countable channels.length) :
    ofIndices channels = .error (.invalidChannelCount channels.length) := by
  by_cases given : channels = []
  · rw [given]
    rfl
  · rw [ofIndices_eq given, contiguous_of_uncountable _ _ beyond]

theorem ofIndices_of_overflow (counted : Countable channels.length)
    (beyond : 64 < (channels.headD 0).toNat + channels.length) :
    ofIndices channels =
      .error (.mapOverflow (channels.headD 0).toNat channels.length 64) := by
  have given : channels ≠ [] := List.length_pos_iff.mp counted.1
  have room : ¬ (channels.headD 0).toNat ≤ bankSize - channels.length := by
    have short := counted.2
    have bank : bankSize = 64 := rfl
    omega
  rw [ofIndices_eq given, contiguous_of_overflow _ _ counted room]
  rfl

theorem ofIndices_of_fits (given : channels ≠ [])
    (fits : (channels.headD 0).toNat + channels.length ≤ 64) :
    (Consecutive channels ∧ ∃ map, ofIndices channels = .ok map ∧ map.indices = channels) ∨
      (¬ Consecutive channels ∧ ofIndices channels = .error (.nonContiguousMap channels)) := by
  have bank : bankSize = 64 := rfl
  have counted : Countable channels.length := ⟨List.length_pos_iff.mpr given, by omega⟩
  obtain ⟨map, taken, count, start⟩ :=
    contiguous_of_fits channels.length (channels.headD 0).toNat counted (by omega)
  rw [ofIndices_eq given, taken]
  by_cases counts : Consecutive channels
  · have same := (indices_eq_iff count start).mpr counts
    exact .inl ⟨counts, map, if_pos same, same⟩
  · have other := mt (indices_eq_iff count start).mp counts
    exact .inr ⟨counts, if_neg other⟩

theorem ofIndices_of_fault {cause : CalculatorError} (fault : ListFault channels cause) :
    ofIndices channels = .error cause := by
  cases fault with
  | count outside => exact ofIndices_of_uncountable (not_countable_iff.mpr outside)
  | overflow given short beyond =>
      exact ofIndices_of_overflow ⟨List.length_pos_iff.mpr given, short⟩ beyond
  | gap given fits broken =>
      rcases ofIndices_of_fits given fits with ⟨counts, -⟩ | ⟨-, refused⟩
      · exact absurd counts broken
      · exact refused

/-- A list is taken as it stands, or it has a fault. -/
theorem taken_or_fault (channels : List UInt8) :
    (channels ≠ [] ∧ Consecutive channels ∧ (channels.headD 0).toNat + channels.length ≤ 64 ∧
        ∃ map, ofIndices channels = .ok map ∧ map.indices = channels) ∨
      ∃ cause, ListFault channels cause := by
  by_cases outside : channels = [] ∨ 64 < channels.length
  · exact .inr ⟨_, .count outside⟩
  · have given : channels ≠ [] := fun none => outside (.inl none)
    have short : channels.length ≤ 64 := Nat.not_lt.mp fun long => outside (.inr long)
    by_cases fits : (channels.headD 0).toNat + channels.length ≤ 64
    · rcases ofIndices_of_fits given fits with ⟨counts, taken⟩ | ⟨broken, -⟩
      · exact .inl ⟨given, counts, fits, taken⟩
      · exact .inr ⟨_, .gap given fits broken⟩
    · exact .inr ⟨_, .overflow given short (Nat.not_le.mp fits)⟩

end Lists

theorem taken_iff (channels : List UInt8) :
    (∃ map, ofIndices channels = .ok map) ↔
      channels ≠ [] ∧ Consecutive channels ∧
        (channels.headD 0).toNat + channels.length ≤ 64 := by
  constructor
  · intro success
    obtain ⟨map, taken⟩ := success
    rcases taken_or_fault channels with ⟨given, counts, fits, -⟩ | ⟨cause, fault⟩
    · exact ⟨given, counts, fits⟩
    · rw [ofIndices_of_fault fault] at taken
      cases taken
  · intro run
    obtain ⟨given, counts, fits⟩ := run
    rcases ofIndices_of_fits given fits with ⟨-, map, taken, -⟩ | ⟨broken, -⟩
    · exact ⟨map, taken⟩
    · exact absurd counts broken

theorem refused_iff (channels : List UInt8) (cause : CalculatorError) :
    ofIndices channels = .error cause ↔ ListFault channels cause := by
  constructor
  · intro refused
    rcases taken_or_fault channels with ⟨-, -, -, map, taken, -⟩ | ⟨told, fault⟩
    · rw [taken] at refused
      cases refused
    · rw [ofIndices_of_fault fault] at refused
      cases refused
      exact fault
  · exact ofIndices_of_fault

/-! ## Anchoring -/

theorem anchored_eq (channels : List UInt8) (counted : Countable channels.length) :
    anchored channels = contiguous channels.length (anchor channels) := by
  have first : (channels.head?.map UInt8.toNat).getD 0 = (channels.headD 0).toNat := by
    cases channels <;> rfl
  simp only [anchored, checkCount_of_countable counted, first, bind, Except.bind]
  rfl

theorem anchored_of_countable (channels : List UInt8) (counted : Countable channels.length) :
    ∃ map, anchored channels = .ok map ∧ map.count = channels.length ∧
      map.start = anchor channels := by
  rw [anchored_eq channels counted]
  exact contiguous_of_fits _ _ counted (Nat.min_le_right ..)

theorem anchored_of_uncountable (channels : List UInt8) (beyond : ¬ Countable channels.length) :
    anchored channels = .error (.invalidChannelCount channels.length) := by
  rw [anchored, checkCount_of_uncountable beyond]
  rfl

theorem anchored_indices (map : ChannelMap) : anchored map.indices = .ok map := by
  have counted : Countable map.indices.length := by
    rw [map.length_indices]
    exact map.countable
  have start : anchor map.indices = map.start := by
    have bank := map.fits
    rw [anchor, map.head_indices, map.length_indices]
    omega
  rw [anchored_eq map.indices counted, start, map.length_indices]
  exact map.contiguous_count_start

/-- Reading the list of a record is anchoring it. -/
theorem ofRecord_eq_anchored (channels : List UInt8) : ofRecord channels = anchored channels := by
  cases taken : ofIndices channels with
  | ok map =>
      have listed := (ofIndices_eq_ok_iff channels map).mp taken
      rw [ofRecord, taken, ← listed]
      exact map.anchored_indices.symm
  | error cause =>
      -- Two of the three faults lead to anchoring, and anchoring tells the third itself.
      cases (refused_iff channels cause).mp taken with
      | count outside =>
          rw [ofRecord, taken, anchored_of_uncountable channels (not_countable_iff.mpr outside)]
      | overflow given short beyond => rw [ofRecord, taken]
      | gap given fits broken => rw [ofRecord, taken]

/-! ## Reading and loading -/

structure ReadStrictly (channels : List UInt8) : Prop where
  taken : (∃ map, ofIndices channels = .ok map) ↔
    channels ≠ [] ∧ Consecutive channels ∧ (channels.headD 0).toNat + channels.length ≤ 64
  kept : ∀ map, ofIndices channels = .ok map → map.indices = channels
  refused : ∀ cause, ofIndices channels = .error cause ↔ ListFault channels cause
  loaded : ofRecord channels = anchored channels
  /-- Anchoring moves no list that is taken as it stands. -/
  unmoved : ∀ map, ofIndices channels = .ok map → anchored channels = .ok map
  /-- The loader refuses only lists that are too short or too long for a map. -/
  unloaded : ∀ cause, ofRecord channels = .error cause ↔
    (channels = [] ∨ 64 < channels.length) ∧ cause = .invalidChannelCount channels.length

theorem unloaded_iff (channels : List UInt8) (cause : CalculatorError) :
    ofRecord channels = .error cause ↔
      (channels = [] ∨ 64 < channels.length) ∧ cause = .invalidChannelCount channels.length := by
  rw [ofRecord_eq_anchored, ← not_countable_iff]
  by_cases counted : Countable channels.length
  · obtain ⟨map, made, -⟩ := anchored_of_countable channels counted
    simp [made, counted]
  · simp [anchored_of_uncountable channels counted, counted, eq_comm]

/-- The reader takes exactly the lists that count up within the bank, as they stand, and tells of every
other list its first fault.  The loader gives what anchoring gives, for the lists that are taken and for
those that are not. -/
theorem lists_are_read_strictly (channels : List UInt8) : ReadStrictly channels where
  taken := taken_iff channels
  kept := fun map taken => (ofIndices_eq_ok_iff channels map).mp taken
  refused := refused_iff channels
  loaded := ofRecord_eq_anchored channels
  unmoved := by
    intro map taken
    rw [← (ofIndices_eq_ok_iff channels map).mp taken]
    exact map.anchored_indices
  unloaded := unloaded_iff channels

end ChannelMap

end NetAudio
