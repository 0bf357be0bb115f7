import NetAudio.Json.Basic

/-!
# Records in JSON

A record is described once, by its slots in order; the description gives both the reader and the
writer.  An object may name the slots in any order and may hold other names; no known name may come
twice, and only an optional slot may be left out, which keeps the value of the blank record.  A
record may also be an array of its slots in order, without trailing optional ones.

Reading goes from left to right and stops at the first fault it meets, so it can tell text that is
not JSON from JSON of another shape.
-/

set_option autoImplicit false

namespace NetAudio.Json

/-- Why a document does not stand for a value. -/
inductive Fault where
  /-- The text is not JSON, up to where it was read. -/
  | syntaxFault
  /-- It is JSON of another shape. -/
  | shape
  deriving DecidableEq, Repr

/-- The fault of a document that is not what is asked for. -/
def misfit : Json → Fault
  | .void | .cut => .syntaxFault
  | _ => .shape

/-- The values that have a JSON form. -/
class Wire (α : Type) where
  toJson : α → Json
  ofJson : Json → Except Fault α

export Wire (toJson ofJson)

/-! ## Scalars, words and lists -/

def readInteger (low high : Int) : Json → Except Fault Int
  | .integer value => if low ≤ value ∧ value ≤ high then .ok value else .error .shape
  | other => .error (misfit other)

/-- A natural number below `size`. -/
def readWord (size : Nat) (doc : Json) : Except Fault Nat :=
  (readInteger 0 (size - 1) doc).map Int.toNat

instance : Wire UInt8 :=
  ⟨fun n => .ofNat n.toNat, fun doc => (readWord UInt8.size doc).map UInt8.ofNat⟩

instance : Wire UInt16 :=
  ⟨fun n => .ofNat n.toNat, fun doc => (readWord UInt16.size doc).map UInt16.ofNat⟩

instance : Wire UInt32 :=
  ⟨fun n => .ofNat n.toNat, fun doc => (readWord UInt32.size doc).map UInt32.ofNat⟩

instance : Wire UInt64 :=
  ⟨fun n => .ofNat n.toNat, fun doc => (readWord UInt64.size doc).map UInt64.ofNat⟩

instance : Wire Int32 :=
  ⟨fun n => .integer n.toInt,
    fun doc => (readInteger Int32.minValue.toInt Int32.maxValue.toInt doc).map Int32.ofInt⟩

instance : Wire Int64 :=
  ⟨fun n => .integer n.toInt,
    fun doc => (readInteger Int64.minValue.toInt Int64.maxValue.toInt doc).map Int64.ofInt⟩

instance : Wire Bool where
  toJson := .bool
  ofJson
    | .bool value => .ok value
    | other => .error (misfit other)

instance : Wire String where
  toJson := .string
  ofJson
    | .string value => .ok value
    | other => .error (misfit other)

/-- `null` stands for nothing. -/
instance {α : Type} [Wire α] : Wire (Option α) where
  toJson
    | none => .null
    | some value => toJson value
  ofJson
    | .null => .ok none
    | doc => (ofJson doc).map some

instance {α : Type} [Wire α] : Wire (List α) where
  toJson values := .array (values.map toJson)
  ofJson
    | .array items => items.mapM ofJson
    | other => .error (misfit other)

/-- A word of a fixed list: the string, or an object with the word as its only name and `null`
under it.  Any other document is taken for text that is not JSON. -/
def readChoice {α : Type} (choices : List (String × α)) : Json → Except Fault α
  | .string word => (choices.lookup word).elim (.error .shape) .ok
  | .object ((word, value) :: rest) =>
    match choices.lookup word, value, rest with
    | _, .cut, _ => .error .syntaxFault
    | none, _, _ => .error .shape
    | some choice, .null, [] => .ok choice
    | some _, .null, _ => .error .syntaxFault
    | some _, other, _ => .error (misfit other)
  | _ => .error .syntaxFault

/-! ## Records -/

/-- One slot of a record of type `ρ`. -/
structure Slot (ρ : Type) where
  name : String
  optional : Bool
  read : Json → ρ → Except Fault ρ
  write : ρ → Json

namespace Slot

variable {ρ α : Type} [Wire α]

def required (name : String) (get : ρ → α) (set : ρ → α → ρ) : Slot ρ where
  name := name
  optional := false
  read doc record := (ofJson doc).map (set record)
  write record := toJson (get record)

def defaulted (name : String) (get : ρ → α) (set : ρ → α → ρ) : Slot ρ :=
  { required name get set with optional := true }

end Slot

/-- The description of a record: the blank one and the slots in order. -/
structure Record (ρ : Type) where
  blank : ρ
  slots : List (Slot ρ)

namespace Record

variable {ρ : Type} (form : Record ρ)

def slot? (name : String) : Option (Slot ρ) :=
  form.slots.find? fun slot => slot.name == name

/-- Whether every slot that must be given is among the names. -/
def complete (given : List String) : Bool :=
  form.slots.all fun slot => slot.optional || given.contains slot.name

/-- Reads the members of an object into a record that already holds the names in `given`. -/
def readMembers (given : List String) (record : ρ) : List (String × Json) → Except Fault ρ
  | [] => if form.complete given then .ok record else .error .shape
  | (name, value) :: rest =>
    match form.slot? name with
    | none => if value.intact then readMembers given record rest else .error .syntaxFault
    | some slot =>
      if given.contains name then .error .shape
      else do readMembers (name :: given) (← slot.read value record) rest

/-- Reads the items of an array, slot by slot. -/
def readItems (record : ρ) : List (Slot ρ) → List Json → Except Fault ρ
  | [], [] => .ok record
  | [], _ :: _ => .error .syntaxFault
  | slot :: slots, [] => if slot.optional then readItems record slots [] else .error .shape
  | slot :: slots, item :: items => do readItems (← slot.read item record) slots items

def ofJson : Json → Except Fault ρ
  | .object members => form.readMembers [] form.blank members
  | .array items => readItems form.blank form.slots items
  | other => .error (misfit other)

def toJson (record : ρ) : Json :=
  .object (form.slots.map fun slot => (slot.name, slot.write record))

/-- The JSON form of the records that the description describes. -/
@[reducible] def wire : Wire ρ := ⟨form.toJson, form.ofJson⟩

end Record

end NetAudio.Json
