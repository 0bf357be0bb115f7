import NetAudio.Proofs.Json.Records
import Mathlib.Data.List.Forall2

/-!
# Descriptions with the same documents

Two descriptions, slot by slot alike in what they say of one value each, take the same documents for
these values.  The first slot may be optional on one side only; then the documents of the other side are
those that give it.
-/

set_option autoImplicit false

namespace NetAudio.Json

/-- What holds of related items holds of all items of both lists or of neither. -/
theorem forall_mem_iff_of_forall₂ {α β : Type} {related : α → β → Prop} {left : α → Prop}
    {right : β → Prop} {items : List α} {others : List β}
    (parallel : List.Forall₂ related items others)
    (same : ∀ item other, related item other → (left item ↔ right other)) :
    (∀ item ∈ items, left item) ↔ ∀ other ∈ others, right other := by
  induction parallel with
  | nil => simp
  | cons head tail ih => rw [List.forall_mem_cons, List.forall_mem_cons, same _ _ head, ih]

theorem map_eq_of_forall₂ {α β γ : Type} {related : α → β → Prop} {view : α → γ} {look : β → γ}
    {items : List α} {others : List β} (parallel : List.Forall₂ related items others)
    (same : ∀ item other, related item other → view item = look other) :
    items.map view = others.map look := by
  induction parallel with
  | nil => rfl
  | cons head tail ih => rw [List.map_cons, List.map_cons, same _ _ head, ih]

section Slots
variable {ρ σ : Type}

def Slot.Omits (slot : Slot ρ) (blank value : ρ) : Prop :=
  slot.optional = true ∧ slot.write value = slot.write blank

/-- Two slots that say the same of `left` and `right`, but that the first, if it has the name `key`,
must be given. -/
structure Slot.Alike (key : String) (blank left : ρ) (void right : σ) (slot : Slot ρ)
    (other : Slot σ) : Prop where
  name : slot.name = other.name
  written : slot.write left = other.write right
  holds : ∀ doc, slot.Holds doc left ↔ other.Holds doc right
  omits : slot.Omits blank left ↔ other.Omits void right ∧ slot.name ≠ key

section Lenses
variable {α β : Type} [Wire α] [Wire β] {key name : String} {blank left : ρ} {void right : σ}
  {get : ρ → α} {set : ρ → α → ρ} {get' : σ → β} {set' : σ → β → σ}
  (get_set : ∀ record value, get (set record value) = value)
  (set_get : ∀ record, set record (get record) = record)
  (get_set' : ∀ record value, get' (set' record value) = value)
  (set_get' : ∀ record, set' record (get' record) = record)
  (written : toJson (get left) = toJson (get' right))
  (same : ∀ doc, ofJson doc = .ok (get left) ↔ ofJson doc = .ok (get' right))
include get_set set_get get_set' set_get' same

theorem Slot.holds_iff_holds (name : String) (doc : Json) :
    (required name get set).Holds doc left ↔ (required name get' set').Holds doc right := by
  rw [required_holds_iff name get_set set_get, required_holds_iff name get_set' set_get', same]

include written

theorem Slot.required_alike :
    Alike key blank left void right (required name get set) (required name get' set') where
  name := rfl
  written := written
  holds := holds_iff_holds get_set set_get get_set' set_get' same name
  omits := by simp [Omits, required]

theorem Slot.defaulted_alike (unwritten : toJson (get blank) = toJson (get' void))
    (other : name ≠ key) :
    Alike key blank left void right (defaulted name get set) (defaulted name get' set') where
  name := rfl
  written := written
  holds := holds_iff_holds get_set set_get get_set' set_get' same name
  omits := by simp [Omits, written, unwritten, other, defaulted]

theorem Slot.key_alike :
    Alike key blank left void right (required key get set) (defaulted key get' set') where
  name := rfl
  written := written
  holds := holds_iff_holds get_set set_get get_set' set_get' same key
  omits := by simp [Omits, required]

end Lenses

end Slots

/-- The document gives the first slot, which is named `key`: an object by the name, an array as its
first item. -/
def Gives (key : String) : Json → Prop
  | .object members => key ∈ members.map (·.1)
  | .array items => items ≠ []
  | _ => False

namespace Record
variable {ρ σ : Type} {form : Record ρ} {other : Record σ} {key : String} {left : ρ} {right : σ}

/-- Two descriptions that say the same of `left` and `right`, slot by slot. -/
def Alike (form : Record ρ) (other : Record σ) (key : String) (left : ρ) (right : σ) : Prop :=
  List.Forall₂ (Slot.Alike key form.blank left other.blank right) form.slots other.slots

theorem gives_iff {later : List String} (first : form.slots.map (·.name) = key :: later) {doc : Json}
    {members : List (String × Json)} (found : form.members? doc = some members) :
    members.lookup key ≠ none ↔ doc.Gives key := by
  cases doc with
  | object given =>
      cases found
      rw [ne_eq, lookup_eq_none_iff, not_not]
      rfl
  | array items =>
      simp only [members?, first] at found
      split at found
      · cases found
        cases items <;> simp [Gives]
      · cases found
  | _ => cases found

namespace Alike
variable (alike : form.Alike other key left right)
include alike

theorem names : form.slots.map (·.name) = other.slots.map (·.name) :=
  map_eq_of_forall₂ alike fun _ _ pair => pair.name

theorem toJson_eq : form.toJson left = other.toJson right := by
  have members : (form.slots.map fun slot => (slot.name, slot.write left)) =
      other.slots.map fun slot => (slot.name, slot.write right) :=
    map_eq_of_forall₂ alike fun _ _ pair => by rw [pair.name, pair.written]
  rw [Record.toJson, members, Record.toJson]

theorem unknown_iff (name : String) : form.slot? name = none ↔ other.slot? name = none := by
  rw [slot?_eq_none_iff, slot?_eq_none_iff]
  exact forall_mem_iff_of_forall₂ alike fun slot another pair => by rw [pair.name]

theorem knownNames_eq (members : List (String × Json)) :
    form.knownNames members = other.knownNames members := by
  have same : ∀ name, (form.slot? name).isSome = (other.slot? name).isSome := by
    intro name
    rw [Bool.eq_iff_iff, Option.isSome_iff_ne_none, Option.isSome_iff_ne_none, ne_eq, ne_eq,
      alike.unknown_iff]
  simp only [knownNames, same]

theorem members?_eq (doc : Json) : form.members? doc = other.members? doc := by
  have count : form.slots.length = other.slots.length := List.Forall₂.length_eq alike
  cases doc with
  | array items => simp only [members?, count, alike.names]
  | _ => rfl

theorem named_iff (members : List (String × Json)) :
    (∀ slot ∈ form.slots, ∀ doc, members.lookup slot.name = some doc → slot.Holds doc left) ↔
      ∀ slot ∈ other.slots, ∀ doc, members.lookup slot.name = some doc → slot.Holds doc right :=
  forall_mem_iff_of_forall₂ alike fun slot another pair => by simp only [pair.name, pair.holds]

theorem unnamed_iff (keyed : key ∈ form.slots.map (·.name)) (members : List (String × Json)) :
    (∀ slot ∈ form.slots, members.lookup slot.name = none → slot.Omits form.blank left) ↔
      (∀ slot ∈ other.slots, members.lookup slot.name = none → slot.Omits other.blank right) ∧
        members.lookup key ≠ none := by
  have split : (∀ slot ∈ form.slots, members.lookup slot.name = none → slot.Omits form.blank left) ↔
      ∀ slot ∈ other.slots, members.lookup slot.name = none →
        slot.Omits other.blank right ∧ slot.name ≠ key :=
    forall_mem_iff_of_forall₂ alike fun slot another pair => by rw [pair.omits, pair.name]
  rw [split]
  constructor
  · intro unnamed
    refine ⟨fun slot member missing => (unnamed slot member missing).1, fun missing => ?_⟩
    rw [alike.names] at keyed
    obtain ⟨slot, member, rfl⟩ := List.mem_map.mp keyed
    exact (unnamed slot member missing).2 rfl
  · rintro ⟨unnamed, given⟩ slot member missing
    refine ⟨unnamed slot member missing, ?_⟩
    rintro rfl
    exact given missing

theorem reads_iff (keyed : key ∈ form.slots.map (·.name)) (members : List (String × Json)) :
    form.Reads members left ↔ other.Reads members right ∧ members.lookup key ≠ none := by
  have foreign : (∀ member ∈ members, form.slot? member.1 = none → member.2.intact = true) ↔
      ∀ member ∈ members, other.slot? member.1 = none → member.2.intact = true := by
    simp only [alike.unknown_iff]
  have named := alike.named_iff members
  have unnamed := alike.unnamed_iff keyed members
  have known := alike.knownNames_eq members
  constructor
  · intro reads
    obtain ⟨omitted, given⟩ := unnamed.mp fun slot member missing =>
      ⟨(reads.unnamed slot member missing).1.resolve_right nofun,
        (reads.unnamed slot member missing).2⟩
    exact ⟨⟨foreign.mp reads.foreign, known ▸ reads.once, nofun, named.mp reads.named,
      fun slot member missing => ⟨.inl (omitted slot member missing).1,
        (omitted slot member missing).2⟩⟩, given⟩
  · rintro ⟨reads, given⟩
    have omitted := unnamed.mpr ⟨fun slot member missing =>
      ⟨(reads.unnamed slot member missing).1.resolve_right nofun,
        (reads.unnamed slot member missing).2⟩, given⟩
    exact ⟨foreign.mpr reads.foreign, known ▸ reads.once, nofun, named.mpr reads.named,
      fun slot member missing => ⟨.inl (omitted slot member missing).1,
        (omitted slot member missing).2⟩⟩

/-- The documents of `left` are the documents of `right` that give the key. -/
theorem ofJson_iff (lawful : form.Lawful) (another : other.Lawful) {later : List String}
    (first : form.slots.map (·.name) = key :: later) (doc : Json) :
    form.ofJson doc = .ok left ↔ other.ofJson doc = .ok right ∧ doc.Gives key := by
  have keyed : key ∈ form.slots.map (·.name) := first ▸ List.mem_cons_self
  rw [ofJson_eq_ok_iff lawful, ofJson_eq_ok_iff another]
  constructor
  · rintro ⟨members, found, reads⟩
    obtain ⟨same, given⟩ := (alike.reads_iff keyed members).mp reads
    exact ⟨⟨members, alike.members?_eq doc ▸ found, same⟩, (gives_iff first found).mp given⟩
  · rintro ⟨⟨members, found, reads⟩, given⟩
    rw [← alike.members?_eq doc] at found
    exact ⟨members, found,
      (alike.reads_iff keyed members).mpr ⟨reads, (gives_iff first found).mpr given⟩⟩

end Alike

end Record

end NetAudio.Json
