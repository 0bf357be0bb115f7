import NetAudio.Proofs.Json.Text
import NetAudio.Json.Record
import Mathlib.Data.List.Nodup
import Mathlib.Data.List.Pairwise

/-!
# Laws of slots

A slot is lawful if it is one part of its record: what is read into it depends on the document alone,
and it is read back from what it is written as.  A description is lawful if its slots are, if they are
apart from one another, and if they make up the whole record.
-/

set_option autoImplicit false

namespace NetAudio.Json

/-- A type whose values are read back from what they are written as. -/
class Faithful (α : Type) [Wire α] : Prop where
  ofJson_toJson : ∀ value : α, ofJson (toJson value) = .ok value
  legible : ∀ value : α, (toJson value).Legible

theorem ofJson_toJson {α : Type} [Wire α] [Faithful α] (value : α) :
    ofJson (toJson value) = .ok value :=
  Faithful.ofJson_toJson value

theorem ofJson_readWhole_write {α : Type} [Wire α] [Faithful α] (value : α) :
    ofJson (readWhole (toJson value).write) = .ok value := by
  rw [readWhole_write (Faithful.legible value), ofJson_toJson]

@[simp] theorem toJson_inj {α : Type} [Wire α] [Faithful α] {left right : α} :
    toJson left = toJson right ↔ left = right := by
  constructor
  · intro same
    have read := ofJson_toJson left
    rw [same, ofJson_toJson] at read
    cases read
    rfl
  · rintro rfl
    rfl

/-! ## Slots -/

section Slots
variable {ρ : Type}

/-- Whether `doc` is a document of the part of `record` that the slot is. -/
def Slot.Holds (slot : Slot ρ) (doc : Json) (record : ρ) : Prop := slot.read doc record = .ok record

structure Slot.Lawful (slot : Slot ρ) : Prop where
  legible : ∀ record, (slot.write record).Legible
  holds : ∀ record, slot.Holds (slot.write record) record
  settles : ∀ {doc record next value}, slot.read doc record = .ok next →
    slot.write value = slot.write next → slot.Holds doc value
  carries : ∀ {doc value}, slot.Holds doc value → ∀ record, ∃ next,
    slot.read doc record = .ok next ∧ slot.write next = slot.write value

/-- Reading into the slot leaves the part that `other` is. -/
def Slot.Keeps (slot other : Slot ρ) : Prop :=
  ∀ doc record next, slot.read doc record = .ok next → other.write next = other.write record

variable {α : Type} [Wire α] [Faithful α] {get : ρ → α} {set : ρ → α → ρ}

omit [Faithful α] in
@[simp] theorem Slot.required_name (name : String) : (required name get set).name = name := rfl

omit [Faithful α] in
@[simp] theorem Slot.defaulted_name (name : String) : (defaulted name get set).name = name := rfl

omit [Faithful α] in
@[simp] theorem Slot.required_write (name : String) (record : ρ) :
    (required name get set).write record = toJson (get record) := rfl

omit [Faithful α] in
@[simp] theorem Slot.defaulted_write (name : String) (record : ρ) :
    (defaulted name get set).write record = toJson (get record) := rfl

omit [Faithful α] in
theorem Slot.required_holds_iff (name : String)
    (get_set : ∀ record value, get (set record value) = value)
    (set_get : ∀ record, set record (get record) = record) (doc : Json) (record : ρ) :
    (required name get set).Holds doc record ↔ ofJson doc = .ok (get record) := by
  simp only [Holds, required]
  cases found : (ofJson doc : Except Fault α) with
  | error fault => simp [Except.map]
  | ok value =>
      simp only [Except.map, Except.ok.injEq]
      constructor
      · intro same
        rw [← same, get_set]
      · rintro rfl
        exact set_get record

@[simp] theorem Slot.required_lawful (name : String)
    (get_set : ∀ record value, get (set record value) = value)
    (set_get : ∀ record, set record (get record) = record) :
    (required name get set).Lawful where
  legible record := Faithful.legible (get record)
  holds record := (required_holds_iff name get_set set_get _ record).mpr (ofJson_toJson _)
  settles := by
    intro doc record next value read same
    rw [required_holds_iff name get_set set_get]
    have part : get value = get next := toJson_inj.mp same
    simp only [required] at read
    cases found : (ofJson doc : Except Fault α) with
    | error fault => simp [found, Except.map] at read
    | ok given =>
        simp only [found, Except.map, Except.ok.injEq] at read
        rw [part, ← read, get_set]
  carries := by
    intro doc value holds record
    rw [required_holds_iff name get_set set_get] at holds
    refine ⟨set record (get value), ?_, ?_⟩
    · simp [required, holds, Except.map]
    · simp [required, get_set]

@[simp] theorem Slot.defaulted_lawful (name : String)
    (get_set : ∀ record value, get (set record value) = value)
    (set_get : ∀ record, set record (get record) = record) :
    (defaulted name get set).Lawful :=
  have lawful := required_lawful name get_set set_get
  ⟨lawful.legible, lawful.holds, lawful.settles, lawful.carries⟩

omit [Faithful α] in
@[simp] theorem Slot.required_keeps_iff (name : String) (other : Slot ρ) :
    (required name get set).Keeps other ↔
      ∀ (doc : Json) (value : α), ofJson doc = .ok value →
        ∀ record, other.write (set record value) = other.write record := by
  constructor
  · intro keeps doc value found record
    exact keeps doc record _ (by simp [required, found, Except.map])
  · intro frame doc record next read
    simp only [required] at read
    cases found : (ofJson doc : Except Fault α) with
    | error fault => simp [found, Except.map] at read
    | ok value =>
        simp only [found, Except.map, Except.ok.injEq] at read
        rw [← read, frame doc value found]

omit [Faithful α] in
@[simp] theorem Slot.defaulted_keeps_iff (name : String) (other : Slot ρ) :
    (defaulted name get set).Keeps other ↔
      ∀ (doc : Json) (value : α), ofJson doc = .ok value →
        ∀ record, other.write (set record value) = other.write record :=
  @required_keeps_iff ρ α _ get set name other

end Slots

/-! ## Records -/

/-- A description whose slots are parts of the record, apart from one another, and all of it.  The laws
of a description in slots follow from those of its slots, once `simp` may unfold it. -/
structure Record.Lawful {ρ : Type} (form : Record ρ) : Prop where
  names : (form.slots.map (·.name)).Nodup := by simp
  slots : ∀ slot ∈ form.slots, slot.Lawful := by simp
  apart : form.slots.Pairwise fun slot other => slot.Keeps other ∧ other.Keeps slot := by simp
  whole : ∀ left right, (∀ slot ∈ form.slots, slot.write left = slot.write right) → left = right := by
    rintro ⟨⟩ ⟨⟩ same
    simpa using same

namespace Record
variable {ρ : Type} {form : Record ρ}

theorem slot?_eq_some {name : String} {slot : Slot ρ} (found : form.slot? name = some slot) :
    slot ∈ form.slots ∧ slot.name = name :=
  ⟨List.mem_of_find?_eq_some found, by simpa using List.find?_some found⟩

theorem slot?_eq_none_iff {name : String} :
    form.slot? name = none ↔ ∀ slot ∈ form.slots, slot.name ≠ name := by
  simp [slot?]

theorem slot?_ne_none {slot : Slot ρ} (member : slot ∈ form.slots) :
    form.slot? slot.name ≠ none := by
  intro unknown
  exact slot?_eq_none_iff.mp unknown slot member rfl

theorem isSome_slot? {slot : Slot ρ} (member : slot ∈ form.slots) :
    (form.slot? slot.name).isSome = true :=
  Option.isSome_iff_ne_none.mpr (slot?_ne_none member)

theorem Lawful.eq_of_name (lawful : form.Lawful) {slot other : Slot ρ} (member : slot ∈ form.slots)
    (another : other ∈ form.slots) (same : slot.name = other.name) : slot = other :=
  List.inj_on_of_nodup_map lawful.names member another same

theorem Lawful.keeps (lawful : form.Lawful) {slot other : Slot ρ} (member : slot ∈ form.slots)
    (another : other ∈ form.slots) (different : slot.name ≠ other.name) : slot.Keeps other := by
  have symmetric : Std.Symm fun slot other : Slot ρ => slot.Keeps other ∧ other.Keeps slot :=
    ⟨fun _ _ => And.symm⟩
  exact (lawful.apart.forall member another fun same => different (congrArg _ same)).1

end Record

end NetAudio.Json
