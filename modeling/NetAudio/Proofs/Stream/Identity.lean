import Mathlib.Data.List.Basic
import NetAudio.Stream

/-!
# The smallest free id

Marking ids one after another leaves a mark for each id that is managed and in the list, whatever the
order and however often it is there.  So the first place without a mark is the smallest id that is
managed and not in use.
-/

set_option autoImplicit false

namespace NetAudio

/-! ## Marks -/

namespace IdMarks

theorem getElem_mark (marks : IdMarks) (id : UInt8) {place : Nat} (managed : place < maxStreams) :
    (marks.mark id)[place] = true ↔ id.toNat = place ∨ marks[place] = true := by
  rw [mark, Vector.getElem_setIfInBounds]
  split
  · next here => simp [here]
  · next elsewhere => simp [elsewhere]

theorem getElem_foldl_mark (marks : IdMarks) (used : List UInt8) {place : Nat}
    (managed : place < maxStreams) :
    (used.foldl mark marks)[place] = true ↔
      (∃ id ∈ used, id.toNat = place) ∨ marks[place] = true := by
  induction used generalizing marks with
  | nil => simp
  | cons id rest ih =>
      rw [List.foldl_cons, ih, getElem_mark, List.exists_mem_cons_iff, or_assoc, or_left_comm]

theorem getElem_used_iff (used : List UInt8) {id : UInt8} (managed : id.toNat < maxStreams) :
    (used.foldl mark (.replicate maxStreams false))[id.toNat] = true ↔ id ∈ used := by
  rw [getElem_foldl_mark]
  simp [UInt8.toNat_inj]

theorem findIdx?_eq_some_iff (marks : IdMarks) (place : Nat) :
    marks.toList.findIdx? (!·) = some place ↔
      ∃ managed : place < maxStreams, marks[place] = false ∧
        ∀ earlier (before : earlier < place), marks[earlier] = true := by
  rw [List.findIdx?_eq_some_iff_getElem]
  simp

theorem findIdx?_eq_none_iff (marks : IdMarks) :
    marks.toList.findIdx? (!·) = none ↔
      ∀ place (managed : place < maxStreams), marks[place] = true := by
  rw [List.findIdx?_eq_none_iff, List.forall_mem_iff_forall_getElem]
  simp

end IdMarks

/-! ## The first place without a mark -/

theorem exists_id_at {place : Nat} (managed : place < maxStreams) :
    ∃ id : UInt8, id.toNat = place := by
  have small : place < UInt8.size := Nat.lt_trans managed (by decide)
  exact ⟨.ofNat place, UInt8.toNat_ofNat_of_lt small⟩

theorem firstFreeId_eq_some_iff (used : List UInt8) (id : UInt8) :
    firstFreeId used = some id ↔
      id.toNat < maxStreams ∧ id ∉ used ∧ ∀ other < id, other ∈ used := by
  rw [firstFreeId, Option.map_eq_some_iff]
  constructor
  · rintro ⟨place, found, rfl⟩
    obtain ⟨managed, unmarked, earlier⟩ := (IdMarks.findIdx?_eq_some_iff _ place).mp found
    obtain ⟨id, rfl⟩ := exists_id_at managed
    rw [UInt8.ofNat_toNat]
    refine ⟨managed, ?_, ?_⟩
    · rw [← IdMarks.getElem_used_iff used managed, unmarked]
      exact Bool.false_ne_true
    · intro other before
      exact (IdMarks.getElem_used_iff used (Nat.lt_trans before managed)).mp
        (earlier other.toNat before)
  · rintro ⟨managed, free, taken⟩
    refine ⟨id.toNat, (IdMarks.findIdx?_eq_some_iff _ _).mpr ⟨managed, ?_, ?_⟩, UInt8.ofNat_toNat⟩
    · rwa [← Bool.not_eq_true, IdMarks.getElem_used_iff used managed]
    · intro earlier before
      have inside : earlier < maxStreams := Nat.lt_trans before managed
      obtain ⟨other, rfl⟩ := exists_id_at inside
      exact (IdMarks.getElem_used_iff used inside).mpr (taken other before)

theorem firstFreeId_eq_none_iff (used : List UInt8) :
    firstFreeId used = none ↔ ∀ id : UInt8, id.toNat < maxStreams → id ∈ used := by
  rw [firstFreeId, Option.map_eq_none_iff, IdMarks.findIdx?_eq_none_iff]
  constructor
  · intro marked id managed
    exact (IdMarks.getElem_used_iff used managed).mp (marked id.toNat managed)
  · intro all place managed
    obtain ⟨id, rfl⟩ := exists_id_at managed
    exact (IdMarks.getElem_used_iff used managed).mpr (all id managed)

/-- Neither the order of the ids nor how often one is listed matters. -/
theorem firstFreeId_congr {left right : List UInt8} (same : ∀ id, id ∈ left ↔ id ∈ right) :
    firstFreeId left = firstFreeId right := by
  apply Option.ext
  intro id
  simp only [firstFreeId_eq_some_iff, same]

end NetAudio
