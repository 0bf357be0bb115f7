import NetAudio.Daemon.IdTable

/-!
# Tables of records that hold an id

A table is determined by what is found in it, so that changes under different ids can be made in
either order.  A daemon stores each record under the id that the record itself holds.  In such a
table the records of the listing that hold an id are exactly what is found under it.
-/

set_option autoImplicit false

namespace NetAudio

namespace IdTable

/-! ## Tables by what is found in them -/

section Lookup
variable {α : Type} {left right table : IdTable α} {id : UInt8} {record : α}

theorem find?_of_mem (entries : List (UInt8 × α))
    (ascending : (entries.map Prod.fst).Pairwise (· < ·)) (member : (id, record) ∈ entries) :
    entries.find? (fun entry => entry.1 == id) = some (id, record) := by
  induction entries with
  | nil => cases member
  | cons head rest ih =>
      obtain ⟨above, tail⟩ := List.pairwise_cons.mp ascending
      rcases List.mem_cons.mp member with rfl | later
      · simp
      · have distinct : head.1 ≠ id := by
          intro same
          have less : head.1 < id := above id (List.mem_map_of_mem later)
          rw [same] at less
          exact UInt8.lt_irrefl id less
        rw [List.find?_cons_of_neg (by simpa using distinct)]
        exact ih tail later

theorem mem_entries_iff : (id, record) ∈ table.entries ↔ table.get? id = some record := by
  constructor
  · intro member
    rw [get?, find?_of_mem table.entries table.ascending member]
    rfl
  · intro found
    obtain ⟨entry, first, rfl⟩ := Option.map_eq_some_iff.mp found
    have key : entry.1 = id := by simpa using List.find?_some first
    rw [← key]
    exact List.mem_of_find?_eq_some first

/-- Tables in which the same is found under every id are the same. -/
theorem ext_get? (same : ∀ id, left.get? id = right.get? id) : left = right := by
  have members (entry : UInt8 × α) : entry ∈ left.entries ↔ entry ∈ right.entries := by
    rw [mem_entries_iff, mem_entries_iff, same]
  have sorted (table : IdTable α) : table.entries.Pairwise fun a b => a.1 < b.1 :=
    List.pairwise_map.mp table.ascending
  have nodup (table : IdTable α) : table.entries.Nodup := by
    refine (sorted table).imp ?_
    rintro a b less rfl
    exact UInt8.lt_irrefl a.1 less
  have listed : left.entries = right.entries :=
    ((List.perm_ext_iff_of_nodup (nodup left) (nodup right)).mpr members).eq_of_pairwise
      (fun _ _ _ _ less more => absurd (UInt8.lt_trans less more) (UInt8.lt_irrefl _))
      (sorted left) (sorted right)
  cases left
  cases right
  cases listed
  rfl

theorem insert_comm (table : IdTable α) {first second : UInt8} (distinct : first ≠ second)
    (a b : α) :
    (table.insert first a).insert second b = (table.insert second b).insert first a := by
  apply ext_get?
  intro id
  rw [get?_insert, get?_insert, get?_insert, get?_insert]
  by_cases here : id = first
  · rw [if_neg (here ▸ distinct), if_pos here, if_pos here]
  · rw [if_neg here, if_neg here]

theorem insert_of_get? (found : table.get? id = some record) : table.insert id record = table := by
  apply ext_get?
  intro key
  rw [get?_insert]
  split
  · next here => rw [here, found]
  · rfl

theorem erase_of_get?_eq_none (missing : table.get? id = none) : table.erase id = table := by
  apply ext_get?
  intro key
  rw [get?_erase]
  split
  · next here => rw [here, missing]
  · rfl

theorem insertEntry_perm {entries : List (UInt8 × α)}
    (missing : ∀ entry ∈ entries, entry.1 ≠ id) :
    (insertEntry id record entries).Perm ((id, record) :: entries) := by
  induction entries with
  | nil => exact .refl _
  | cons head rest ih =>
      obtain ⟨other, kept⟩ := head
      have distinct : id ≠ other := (missing (other, kept) (.head _)).symm
      have missingRest : ∀ entry ∈ rest, entry.1 ≠ id :=
        fun entry member => missing entry (.tail _ member)
      simp only [insertEntry, if_neg distinct]
      split
      · exact .refl _
      · exact ((ih missingRest).cons (other, kept)).trans (.swap _ _ rest)

/-- A record under a free id joins the listing, and all others stay in it. -/
theorem toList_insert_perm (missing : table.get? id = none) :
    (table.insert id record).toList.Perm (record :: table.toList) := by
  refine (insertEntry_perm ?_).map Prod.snd
  rintro ⟨key, kept⟩ member rfl
  rw [mem_entries_iff.mp member] at missing
  cases missing

def changed (table : IdTable α) (id : UInt8) : Option α → IdTable α
  | some record => table.insert id record
  | none => table.erase id

theorem get?_changed (table : IdTable α) (key id : UInt8) (change : Option α) :
    (table.changed key change).get? id = if id = key then change else table.get? id := by
  cases change with
  | some record => exact table.get?_insert key id record
  | none => exact table.get?_erase key id

end Lookup

/-! ## Records under their own ids -/

section Keyed
variable {α : Type} {idOf : α → UInt8} {table : IdTable α}

/-- Every record stands under the id that it holds. -/
def Keyed (idOf : α → UInt8) (table : IdTable α) : Prop :=
  ∀ entry ∈ table.entries, idOf entry.2 = entry.1

theorem keyed_empty (idOf : α → UInt8) : (empty : IdTable α).Keyed idOf := by
  intro entry member
  cases member

theorem entry_of_insertEntry {id : UInt8} {record : α} {entries : List (UInt8 × α)}
    {entry : UInt8 × α} (member : entry ∈ insertEntry id record entries) :
    entry = (id, record) ∨ entry ∈ entries := by
  induction entries with
  | nil => exact .inl (List.mem_singleton.mp member)
  | cons head rest ih =>
      obtain ⟨other, kept⟩ := head
      simp only [insertEntry] at member
      split at member
      · exact List.mem_cons.mp member
      · split at member
        · rcases List.mem_cons.mp member with same | later
          · exact .inl same
          · exact .inr (.tail _ later)
        · rcases List.mem_cons.mp member with same | later
          · exact .inr (same ▸ .head _)
          · exact (ih later).imp_right (.tail _)

theorem Keyed.insert (keyed : table.Keyed idOf) (record : α) :
    (table.insert (idOf record) record).Keyed idOf := by
  intro entry member
  rcases entry_of_insertEntry member with same | earlier
  · rw [same]
  · exact keyed entry earlier

theorem Keyed.erase (keyed : table.Keyed idOf) (id : UInt8) : (table.erase id).Keyed idOf := by
  intro entry member
  exact keyed entry (List.mem_filter.mp member).1

/-- Under ascending keys at most one record holds an id. -/
theorem filter_of_ascending (id : UInt8) (entries : List (UInt8 × α))
    (ascending : (entries.map Prod.fst).Pairwise (· < ·))
    (keyed : ∀ entry ∈ entries, idOf entry.2 = entry.1) :
    (entries.map Prod.snd).filter (fun record => idOf record == id) =
      ((entries.find? fun entry => entry.1 == id).map Prod.snd).toList := by
  induction entries with
  | nil => rfl
  | cons head rest ih =>
      obtain ⟨other, kept⟩ := head
      obtain ⟨above, tail⟩ := List.pairwise_cons.mp ascending
      have holds : idOf kept = other := keyed (other, kept) (.head _)
      have keyedRest : ∀ entry ∈ rest, idOf entry.2 = entry.1 :=
        fun entry member => keyed entry (.tail _ member)
      by_cases here : other = id
      -- All keys of the rest are above `id`, so none of its records can hold it.
      · have others : (rest.map Prod.snd).filter (fun record => idOf record == id) = [] := by
          rw [List.filter_eq_nil_iff]
          intro record member
          obtain ⟨entry, listed, rfl⟩ := List.mem_map.mp member
          have later : other < entry.1 := above entry.1 (List.mem_map_of_mem listed)
          rw [keyedRest entry listed, beq_iff_eq]
          intro same
          rw [here, same] at later
          exact UInt8.lt_irrefl id later
        simp [holds, here, others]
      · simpa [holds, here] using ih tail keyedRest

/-- The records of a listing that hold an id are what is found under it. -/
theorem Keyed.filter_toList (keyed : table.Keyed idOf) (id : UInt8) :
    table.toList.filter (fun record => idOf record == id) = (table.get? id).toList :=
  filter_of_ascending id table.entries table.ascending keyed

theorem Keyed.mem_toList_iff (keyed : table.Keyed idOf) (record : α) :
    record ∈ table.toList ↔ table.get? (idOf record) = some record := by
  have found : record ∈ table.toList.filter (fun other => idOf other == idOf record) ↔
      record ∈ table.toList := by simp
  rw [← found, keyed.filter_toList, Option.mem_toList]

theorem Keyed.holds (keyed : table.Keyed idOf) {id : UInt8} {record : α}
    (found : table.get? id = some record) : idOf record = id :=
  keyed (id, record) (mem_entries_iff.mpr found)

theorem Keyed.mem_toList_and_holds_iff (keyed : table.Keyed idOf) (id : UInt8) (record : α) :
    record ∈ table.toList ∧ idOf record = id ↔ table.get? id = some record := by
  constructor
  · rintro ⟨member, rfl⟩
    exact (keyed.mem_toList_iff record).mp member
  · intro found
    have holds : idOf record = id := keyed.holds found
    rw [← holds] at found
    exact ⟨(keyed.mem_toList_iff record).mpr found, holds⟩

theorem Keyed.mem_ids_iff (keyed : table.Keyed idOf) (id : UInt8) :
    id ∈ table.toList.map idOf ↔ ∃ record, table.get? id = some record := by
  rw [List.mem_map]
  exact exists_congr (keyed.mem_toList_and_holds_iff id)

theorem Keyed.ascending_toList (keyed : table.Keyed idOf) :
    (table.toList.map idOf).Pairwise (· < ·) := by
  have ids : table.toList.map idOf = table.entries.map Prod.fst := by
    rw [toList, List.map_map]
    exact List.map_congr_left keyed
  rw [ids]
  exact table.ascending

end Keyed

end IdTable

end NetAudio
