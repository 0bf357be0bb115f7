import Mathlib.Data.List.Nodup

/-!
# Members by name

Members are searched by their name, and the first of a name counts.  Where every name comes once, what
stands under a name does not depend on the order.
-/

set_option autoImplicit false

namespace NetAudio
variable {α β : Type} {name : String} {value : α} {members : List (String × α)}

theorem lookup_cons_of_ne {other : String} (different : name ≠ other) (value : α)
    (rest : List (String × α)) : ((other, value) :: rest).lookup name = rest.lookup name := by
  simp [List.lookup_cons, beq_eq_false_iff_ne.mpr different]

theorem lookup_eq_none_iff : members.lookup name = none ↔ name ∉ members.map (·.1) := by
  simp only [List.lookup_eq_none_iff, bne_iff_ne, List.mem_map, not_exists, not_and]
  exact ⟨fun others member among same => others member among same.symm,
    fun others member among same => others member among same.symm⟩

theorem mem_of_lookup (found : members.lookup name = some value) : (name, value) ∈ members := by
  obtain ⟨earlier, later, split, -⟩ := List.lookup_eq_some_iff.mp found
  rw [split]
  exact List.mem_append_right earlier List.mem_cons_self

/-- A name that comes once is looked up where it stands. -/
theorem lookup_of_once (among : (name, value) ∈ members) (once : (members.map (·.1)).count name ≤ 1) :
    members.lookup name = some value := by
  induction members with
  | nil => cases among
  | cons member rest ih =>
      obtain ⟨other, given⟩ := member
      rw [List.map_cons, List.count_cons] at once
      rcases List.mem_cons.mp among with same | later
      · cases same
        exact List.lookup_cons_self
      · have counted : 0 < (rest.map (·.1)).count name :=
          List.count_pos_iff.mpr (List.mem_map_of_mem later)
        have different : name ≠ other := by
          rintro rfl
          simp only [beq_self_eq_true, if_true] at once
          omega
        rw [lookup_cons_of_ne different]
        apply ih later
        omega

theorem lookup_of_nodup (among : (name, value) ∈ members) (distinct : (members.map (·.1)).Nodup) :
    members.lookup name = some value :=
  lookup_of_once among (List.nodup_iff_count_le_one.mp distinct name)

theorem lookup_map (change : String → α → β) (name : String) (members : List (String × α)) :
    (members.map fun (other, value) => (other, change other value)).lookup name =
      (members.lookup name).map (change name) := by
  induction members with
  | nil => rfl
  | cons member rest ih =>
      obtain ⟨other, value⟩ := member
      rw [List.map_cons, List.lookup_cons, List.lookup_cons]
      cases same : name == other with
      | true => rw [eq_of_beq same]; rfl
      | false => exact ih

theorem lookup_filter (keep : String → Bool) (name : String) (members : List (String × α)) :
    (members.filter fun member => keep member.1).lookup name =
      if keep name then members.lookup name else none := by
  induction members with
  | nil => rw [List.filter_nil, List.lookup_nil, ite_self]
  | cons member rest ih =>
      obtain ⟨other, value⟩ := member
      rw [List.filter_cons]
      by_cases same : name = other
      · subst same
        by_cases kept : keep name = true
        · simp [kept]
        · simp [kept, ih]
      · rw [lookup_cons_of_ne same, ← ih]
        by_cases kept : keep other = true
        · rw [if_pos kept, lookup_cons_of_ne same]
        · rw [if_neg kept]

end NetAudio
