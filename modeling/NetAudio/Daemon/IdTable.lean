/-!
# Tables by id

A table holds at most one record under each id and lists its records by ascending id.
-/

set_option autoImplicit false

namespace NetAudio

structure IdTable (α : Type) where
  entries : List (UInt8 × α)
  ascending : (entries.map Prod.fst).Pairwise (· < ·)

namespace IdTable

variable {α : Type}

def empty : IdTable α := ⟨[], .nil⟩

/-- Puts a record in its place among records with ascending ids. -/
def insertEntry (id : UInt8) (record : α) : List (UInt8 × α) → List (UInt8 × α)
  | [] => [(id, record)]
  | (other, kept) :: rest =>
    if id < other then (id, record) :: (other, kept) :: rest
    else if id = other then (id, record) :: rest
    else (other, kept) :: insertEntry id record rest

theorem mem_insertEntry {id key : UInt8} {record : α} {entries : List (UInt8 × α)}
    (h : key ∈ (insertEntry id record entries).map Prod.fst) :
    key = id ∨ key ∈ entries.map Prod.fst := by
  induction entries with
  | nil => simpa [insertEntry] using h
  | cons entry rest ih =>
    obtain ⟨other, kept⟩ := entry
    simp only [insertEntry] at h
    split at h
    · simpa using h
    · split at h
      · simp only [List.map_cons, List.mem_cons] at h ⊢
        exact h.imp_right .inr
      · simp only [List.map_cons, List.mem_cons] at h ⊢
        exact h.elim (.inr ∘ .inl) fun h => (ih h).imp_right .inr

theorem ascending_insertEntry (id : UInt8) (record : α) (entries : List (UInt8 × α))
    (h : (entries.map Prod.fst).Pairwise (· < ·)) :
    ((insertEntry id record entries).map Prod.fst).Pairwise (· < ·) := by
  induction entries with
  | nil => simp [insertEntry]
  | cons entry rest ih =>
    obtain ⟨other, kept⟩ := entry
    have tail := List.pairwise_cons.mp h
    simp only [insertEntry]
    split
    · next less =>
      refine List.pairwise_cons.mpr ⟨fun key member => ?_, h⟩
      rcases List.mem_cons.mp member with rfl | later
      · exact less
      · exact UInt8.lt_trans less (tail.1 key later)
    · split
      · next same => subst same; exact h
      · next notLess notSame =>
        refine List.pairwise_cons.mpr ⟨fun key member => ?_, ih tail.2⟩
        rcases mem_insertEntry member with rfl | later
        · exact UInt8.lt_of_le_of_ne (UInt8.not_lt.mp notLess) (Ne.symm notSame)
        · exact tail.1 key later

def insert (table : IdTable α) (id : UInt8) (record : α) : IdTable α where
  entries := insertEntry id record table.entries
  ascending := ascending_insertEntry id record table.entries table.ascending

def erase (table : IdTable α) (id : UInt8) : IdTable α where
  entries := table.entries.filter fun entry => entry.1 != id
  ascending := table.ascending.sublist (List.filter_sublist.map Prod.fst)

def get? (table : IdTable α) (id : UInt8) : Option α :=
  (table.entries.find? fun entry => entry.1 == id).map Prod.snd

def contains (table : IdTable α) (id : UInt8) : Bool := (table.get? id).isSome

/-- The records, by ascending id. -/
def toList (table : IdTable α) : List α := table.entries.map Prod.snd

/-! ## What is found after a change -/

@[simp] theorem get?_empty (id : UInt8) : (empty : IdTable α).get? id = none := rfl

theorem find?_insertEntry (id key : UInt8) (record : α) (entries : List (UInt8 × α)) :
    (insertEntry id record entries).find? (fun entry => entry.1 == key) =
      if key = id then some (id, record) else entries.find? fun entry => entry.1 == key := by
  induction entries with
  | nil =>
    by_cases same : id = key
    · simp [insertEntry, same]
    · simp [insertEntry, same, Ne.symm same]
  | cons entry rest ih =>
    obtain ⟨other, kept⟩ := entry
    simp only [insertEntry]
    split
    · by_cases same : id = key
      · simp [same]
      · simp [same, Ne.symm same]
    · split
      · next equal =>
        subst equal
        by_cases same : id = key
        · simp [same]
        · simp [same, Ne.symm same]
      · next distinct =>
        by_cases here : other = key
        · subst here
          simp [Ne.symm distinct]
        · simp [here, ih]

/-- A record that is put in is found under its id, and every other record is found as before. -/
theorem get?_insert (table : IdTable α) (id key : UInt8) (record : α) :
    (table.insert id record).get? key = if key = id then some record else table.get? key := by
  simp only [get?, insert, find?_insertEntry]
  split <;> rfl

/-- Nothing is found under an id that is taken out, and every other record is found as before. -/
theorem get?_erase (table : IdTable α) (id key : UInt8) :
    (table.erase id).get? key = if key = id then none else table.get? key := by
  simp only [get?, erase, List.find?_filter]
  by_cases same : key = id
  · subst same
    simp
  · have kept (entry : UInt8 × α) :
        decide ((entry.1 != id) = true ∧ (entry.1 == key) = true) = (entry.1 == key) := by
      by_cases found : entry.1 = key <;> simp [found, same]
    simp only [kept, if_neg same]

end IdTable

end NetAudio
