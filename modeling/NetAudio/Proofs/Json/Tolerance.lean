import NetAudio.Proofs.Json.Records

/-!
# Objects that do not give the whole record

An object may give the slots of a record in any order, with other names among them and without some of
the optional ones: it is read as the record with these slots blank.  An object that leaves out any other
slot, gives a slot twice or holds `null` where a slot has no such document is not read.
-/

set_option autoImplicit false

namespace NetAudio.Json

def orDefault {α : Type} (absent : List String) (key : String) (given default : α) : α :=
  if key ∈ absent then default else given

section Defaults
variable {α : Type} {absent : List String} {key : String}

theorem orDefault_of_mem (left : key ∈ absent) (given default : α) :
    orDefault absent key given default = default := if_pos left

theorem orDefault_of_not_mem (stays : key ∉ absent) (given default : α) :
    orDefault absent key given default = given := if_neg stays

theorem toJson_orDefault [Wire α] (absent : List String) (key : String) (given default : α) :
    toJson (orDefault absent key given default) =
      orDefault absent key (toJson given) (toJson default) := by
  unfold orDefault
  split <;> rfl

end Defaults

namespace Record

variable {ρ : Type} {form : Record ρ}

/-- What is left of `value` without the slots in `absent`: these are blank, all others stay. -/
def LeavesOut (form : Record ρ) (absent : List String) (value left : ρ) : Prop :=
  ∀ slot ∈ form.slots,
    slot.write left = orDefault absent slot.name (slot.write value) (slot.write form.blank)

theorem slot?_eq_none_of_not_mem {name : String} (foreign : name ∉ form.slots.map (·.name)) :
    form.slot? name = none := by
  rw [slot?_eq_none_iff]
  intro slot member same
  exact foreign (same ▸ List.mem_map_of_mem member)

section Tolerance
variable {absent : List String} {value left : ρ} {others members : List (String × Json)}
  (foreign : ∀ other ∈ others, other.1 ∉ form.slots.map (·.name) ∧ other.2.intact = true)
  (given : members.Perm ((form.written value).filter (fun member => member.1 ∉ absent) ++ others))

include foreign given

/-- Of the members of such an object, those with the name of a slot are the ones it was written with. -/
theorem mem_of_given (lawful : form.Lawful) {slot : Slot ρ} (member : slot ∈ form.slots) (doc : Json) :
    (slot.name, doc) ∈ members ↔ doc = slot.write value ∧ slot.name ∉ absent := by
  rw [given.mem_iff, List.mem_append, List.mem_filter, mem_written_iff lawful member]
  simp only [decide_eq_true_eq]
  constructor
  · rintro (both | among)
    · exact both
    · exact absurd (List.mem_map_of_mem member) (foreign _ among).1
  · intro both
    exact .inl both

theorem knownNames_of_given (lawful : form.Lawful) : (form.knownNames members).Nodup := by
  have known : (form.knownNames members).Perm
      (form.knownNames ((form.written value).filter fun member => member.1 ∉ absent) ++
        form.knownNames others) := by
    simp only [knownNames, ← List.filter_append, ← List.map_append]
    exact (given.map _).filter _
  have unknown : form.knownNames others = [] := by
    rw [knownNames, List.filter_eq_nil_iff]
    intro name listed
    obtain ⟨other, among, rfl⟩ := List.mem_map.mp listed
    rw [slot?_eq_none_of_not_mem (foreign other among).1]
    simp
  have distinct : ((form.written value).map (·.1)).Nodup := by
    rw [names_written]
    exact lawful.names
  rw [unknown, List.append_nil] at known
  rw [known.nodup_iff]
  exact (distinct.sublist (List.filter_sublist.map _)).filter _

/-- The slots may stand in any order, other names among them, and optional ones may be missing. -/
theorem ofJson_of_given (lawful : form.Lawful)
    (optional : ∀ slot ∈ form.slots, slot.name ∈ absent → slot.optional = true)
    (leaves : form.LeavesOut absent value left) : form.ofJson (.object members) = .ok left := by
  rw [ofJson_eq_ok_iff lawful]
  refine ⟨members, rfl, ⟨?_, knownNames_of_given foreign given lawful, nofun, ?_, ?_⟩⟩
  · intro member among unknown
    rcases List.mem_append.mp (given.mem_iff.mp among) with own | other
    · obtain ⟨slot, listed, rfl⟩ := List.mem_map.mp (List.mem_filter.mp own).1
      exact absurd unknown (slot?_ne_none listed)
    · exact (foreign member other).2
  · intro slot member doc found
    have among : (slot.name, doc) ∈ members := mem_of_lookup found
    obtain ⟨rfl, stays⟩ := (mem_of_given foreign given lawful member doc).mp among
    rw [← orDefault_of_not_mem stays (slot.write value) (slot.write form.blank),
      ← leaves slot member]
    exact (lawful.slots slot member).holds left
  · intro slot member missing
    have gone : slot.name ∈ absent := by
      by_contra stays
      have among := (mem_of_given foreign given lawful member (slot.write value)).mpr ⟨rfl, stays⟩
      exact lookup_eq_none_iff.mp missing (List.mem_map_of_mem among)
    have blank : slot.write left = slot.write form.blank := by
      rw [leaves slot member, orDefault_of_mem gone]
    exact ⟨.inl (optional slot member gone), blank⟩

end Tolerance

/-! ## Objects with every name once -/

/-- What stands under the name of a slot is this part of `value`; where nothing does, the part is that
of `blank`. -/
inductive Fills (slot : Slot ρ) (blank value : ρ) : Option Json → Prop where
  | given (doc : Json) (holds : slot.Holds doc value) : Fills slot blank value (some doc)
  | missing (optional : slot.optional = true) (same : slot.write value = slot.write blank) :
      Fills slot blank value none

theorem ofJson_of_fills (lawful : form.Lawful) {members : List (String × Json)} {value : ρ}
    (distinct : (members.map (·.1)).Nodup) (intact : ∀ member ∈ members, member.2.intact = true)
    (fills : ∀ slot ∈ form.slots, Fills slot form.blank value (members.lookup slot.name)) :
    form.ofJson (.object members) = .ok value := by
  rw [ofJson_eq_ok_iff lawful]
  refine ⟨members, rfl, ⟨fun member among _ => intact member among, distinct.filter _, nofun, ?_, ?_⟩⟩
  · intro slot member doc found
    have filled := fills slot member
    rw [found] at filled
    cases filled with
    | given _ holds => exact holds
  · intro slot member missing
    have filled := fills slot member
    rw [missing] at filled
    cases filled with
    | missing optional same => exact ⟨.inl optional, same⟩

/-! ## Objects that are not read -/

section Refusals
variable {members : List (String × Json)} {slot : Slot ρ}

/-- An object that stands for no value is refused. -/
theorem refused_of_not_reads (lawful : form.Lawful) (unread : ∀ value, ¬ form.Reads members value) :
    ∃ fault, form.ofJson (.object members) = .error fault := by
  cases read : form.ofJson (.object members) with
  | error fault => exact ⟨fault, rfl⟩
  | ok value =>
      obtain ⟨_, found, reads⟩ := (ofJson_eq_ok_iff lawful _ value).mp read
      cases found
      exact absurd reads (unread value)

theorem refused_of_missing (lawful : form.Lawful) (member : slot ∈ form.slots)
    (needed : slot.optional = false) (missing : slot.name ∉ members.map (·.1)) :
    ∃ fault, form.ofJson (.object members) = .error fault := by
  apply refused_of_not_reads lawful
  intro value reads
  obtain ⟨part, found, -⟩ := reads.part member needed
  rw [lookup_eq_none_iff.mpr missing] at found
  cases found

theorem count_le_one_of_reads {value : ρ} (reads : form.Reads members value)
    (member : slot ∈ form.slots) : (members.map (·.1)).count slot.name ≤ 1 := by
  have once := List.nodup_iff_count_le_one.mp reads.once slot.name
  rw [knownNames, List.count_filter] at once
  · exact once
  · exact isSome_slot? member

theorem refused_of_repeated (lawful : form.Lawful) (member : slot ∈ form.slots)
    (repeated : 2 ≤ (members.map (·.1)).count slot.name) :
    ∃ fault, form.ofJson (.object members) = .error fault := by
  apply refused_of_not_reads lawful
  intro value reads
  have once := count_le_one_of_reads reads member
  omega

/-- A slot that no value has `null` in refuses it, wherever it stands in the object. -/
theorem refused_of_null (lawful : form.Lawful) (member : slot ∈ form.slots)
    (solid : ∀ value, ¬ slot.Holds .null value) (void : (slot.name, .null) ∈ members) :
    ∃ fault, form.ofJson (.object members) = .error fault := by
  apply refused_of_not_reads lawful
  intro value reads
  have found := lookup_of_once void (count_le_one_of_reads reads member)
  exact solid value (reads.named slot member .null found)

end Refusals

end Record

end NetAudio.Json
