import Mathlib.Data.List.Nodup
import NetAudio.Form.Validation

/-!
# What a validation finds

Where every field has at most one check, a field's issue is what its check found, whatever the other
checks found.  So a validation reports exactly the faults that its checks look for (`Reports`): each
under its own field, in the order of the fields, and none that is not there.
-/

set_option autoImplicit false

namespace NetAudio

/-! ## What one check finds -/

namespace Issue
variable (issue : Issue)

theorem unlessIn_eq_some (value min max : Nat) :
    unlessIn value min max = some issue ↔
      (value < min ∨ max < value) ∧ issue = .outOfRange value min max := by
  rw [unlessIn, Option.ite_none_left_eq_some, Option.some.injEq, eq_comm (b := issue), not_and_or,
    Nat.not_le, Nat.not_le]

theorem unlessGiven_eq_some (text : String) :
    unlessGiven text = some issue ↔ text = "" ∧ issue = .required := by
  rw [unlessGiven, Option.ite_none_right_eq_some, Option.some.injEq, eq_comm (b := issue),
    String.isEmpty_iff]

theorem unlessOffered_eq_some (offered : Bool) :
    unlessOffered offered = some issue ↔ offered = false ∧ issue = .notOffered := by
  rw [unlessOffered, Option.ite_none_left_eq_some, Option.some.injEq, eq_comm (b := issue),
    Bool.not_eq_true]

theorem unlessOffered_contains_eq_some {α : Type} [BEq α] [LawfulBEq α] (offered : List α)
    (value : α) :
    unlessOffered (offered.contains value) = some issue ↔ value ∉ offered ∧ issue = .notOffered := by
  rw [unlessOffered_eq_some, ← Bool.not_eq_true, List.contains_iff_mem]

theorem unlessFormed_eq_some (formed : Bool) :
    unlessFormed formed = some issue ↔ formed = false ∧ issue = .malformed := by
  rw [unlessFormed, Option.ite_none_left_eq_some, Option.some.injEq, eq_comm (b := issue),
    Bool.not_eq_true]

theorem ifAbove_eq_some (value limit : Nat) :
    ifAbove value limit = some issue ↔
      limit < value ∧ issue = .capacityExceeded value limit := by
  rw [ifAbove, Option.ite_none_right_eq_some, Option.some.injEq, eq_comm (b := issue)]

end Issue

theorem Check.found_iff (field : Field) (issue : Issue) (check : Check) :
    (field, some issue) = check ↔ field = check.1 ∧ check.2 = some issue := by
  rw [Prod.ext_iff, eq_comm (b := check.2)]

/-! ## What all checks find -/

namespace Validation
variable {validation : Validation}

theorem mem_errors_iff (field : Field) (issue : Issue) :
    (field, issue) ∈ validation.errors ↔ validation.issue? field = some issue := by
  simp only [errors, List.mem_filterMap, Option.map_eq_some_iff, Prod.mk.injEq]
  constructor
  · rintro ⟨_, -, _, found, rfl, rfl⟩
    exact found
  · intro found
    exact ⟨field, field.mem_all, issue, found, rfl, rfl⟩

/-- The fields with an issue are listed in order, each once. -/
theorem fields_errors (validation : Validation) :
    validation.errors.map (·.1) = Field.all.filter fun field => (validation.issue? field).isSome := by
  rw [errors, List.map_filterMap]
  induction Field.all with
  | nil => rfl
  | cons field fields ih =>
      rw [List.filterMap_cons, List.filter_cons]
      cases found : validation.issue? field with
      | none => exact ih
      | some issue => exact congrArg (field :: ·) ih

section Distinct
variable (distinct : (validation.checks.map (·.1)).Nodup)
include distinct

/-- The issue of a field is what the field's own check found. -/
theorem issue?_of_mem {check : Check} (member : check ∈ validation.checks) :
    validation.issue? check.1 = check.2 := by
  cases found : validation.issue? check.1 with
  | none => exact ((validation.issue?_eq_none_iff check.1).mp found check member rfl).symm
  | some issue =>
      obtain ⟨⟨field, told⟩, listed, gives⟩ := List.exists_of_findSome?_eq_some found
      dsimp only at gives
      split at gives
      · next same =>
          rw [← List.inj_on_of_nodup_map distinct listed member same]
          exact gives.symm
      · cases gives

theorem issue?_eq_some_iff (field : Field) (issue : Issue) :
    validation.issue? field = some issue ↔ (field, some issue) ∈ validation.checks := by
  constructor
  · intro found
    obtain ⟨⟨other, told⟩, listed, gives⟩ := List.exists_of_findSome?_eq_some found
    dsimp only at gives
    split at gives
    · next same =>
        subst same
        rw [← gives]
        exact listed
    · cases gives
  · exact issue?_of_mem distinct

end Distinct

structure Reports (validation : Validation) (Fault : Field → Issue → Prop) : Prop where
  issue : ∀ field issue, validation.issue? field = some issue ↔ Fault field issue
  listed : ∀ field issue, (field, issue) ∈ validation.errors ↔ Fault field issue
  ordered : (validation.errors.map (·.1)).Sublist Field.all
  valid : validation.isValid = true ↔ ∀ field issue, ¬ Fault field issue

theorem reports_of_checks {Fault : Field → Issue → Prop}
    (distinct : (validation.checks.map (·.1)).Nodup)
    (exact : ∀ field issue, (field, some issue) ∈ validation.checks ↔ Fault field issue) :
    validation.Reports Fault where
  issue field issue := (issue?_eq_some_iff distinct field issue).trans (exact field issue)
  listed field issue := by
    rw [mem_errors_iff, issue?_eq_some_iff distinct]
    exact exact field issue
  ordered := by
    rw [fields_errors]
    exact List.filter_sublist
  valid := by
    simp only [← exact]
    rw [isValid_iff]
    constructor
    · intro clean field issue member
      cases clean _ member
    · rintro clean ⟨field, found⟩ member
      exact Option.eq_none_iff_forall_ne_some.mpr fun issue same =>
        clean field issue (same ▸ member)

end Validation

end NetAudio
