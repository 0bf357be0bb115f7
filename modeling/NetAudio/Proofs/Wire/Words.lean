import NetAudio.Proofs.Json.Slots
import NetAudio.Proofs.ChannelMap.Lists
import NetAudio.Proofs.Packet.Policies
import NetAudio.Wire.Daemon
import NetAudio.Wire.Form
import Mathlib.Algebra.Group.Int.Defs

/-!
# JSON forms of numbers, words and maps

Numbers, texts, lists, codepoints, rates and channel maps have one document for each value and no other
document stands for them.  A word has two documents and is read back from the one that it is written as.
-/

set_option autoImplicit false

namespace NetAudio

namespace Json

/-- A type each of whose values has one document. -/
class Strict (α : Type) [Wire α] : Prop where
  ofJson_eq_ok_iff : ∀ (doc : Json) (value : α), ofJson doc = .ok value ↔ doc = toJson value

theorem ofJson_eq_ok_iff {α : Type} [Wire α] [Strict α] (doc : Json) (value : α) :
    ofJson doc = .ok value ↔ doc = toJson value :=
  Strict.ofJson_eq_ok_iff doc value

/-- With one document for each value, it is enough that this document is read back from its text. -/
theorem Faithful.of_legible {α : Type} [Wire α] [Strict α]
    (legible : ∀ value : α, (toJson value).Legible) : Faithful α where
  ofJson_toJson value := (ofJson_eq_ok_iff _ value).mpr rfl
  legible := legible

/-! ## Numbers -/

theorem readInteger_eq_ok_iff (low high : Int) (doc : Json) (value : Int) :
    readInteger low high doc = .ok value ↔ doc = .integer value ∧ low ≤ value ∧ value ≤ high := by
  cases doc with
  | integer given =>
      rw [readInteger]
      split
      · next within =>
          simp only [Except.ok.injEq, Json.integer.injEq]
          exact ⟨fun same => ⟨same, same ▸ within⟩, And.left⟩
      · next beyond =>
          simp only [reduceCtorEq, Json.integer.injEq, false_iff, not_and]
          rintro rfl bound
          exact fun other => beyond ⟨bound, other⟩
  | _ => simp [readInteger]

theorem readWord_eq_ok_iff (size : Nat) (doc : Json) (value : Nat) :
    readWord size doc = .ok value ↔ doc = .ofNat value ∧ value < size := by
  rw [readWord]
  cases read : readInteger 0 (size - 1) doc with
  | error fault =>
      simp only [Except.map, reduceCtorEq, false_iff, not_and]
      rintro rfl small
      have found := (readInteger_eq_ok_iff 0 (size - 1) (.integer value) value).mpr ⟨rfl, by omega⟩
      rw [show Json.ofNat value = .integer value from rfl, found] at read
      cases read
  | ok given =>
      obtain ⟨rfl, low, high⟩ := (readInteger_eq_ok_iff 0 (size - 1) doc given).mp read
      simp only [Except.map, Except.ok.injEq, Json.ofNat, Json.integer.injEq]
      omega

/-- Decimal digits leave more room than the bits of a word. -/
theorem lt_pow_of_word (digits : Nat) (long : 64 ≤ digits) {value : Nat} (small : value < 2 ^ 64) :
    value < 10 ^ digits :=
  calc
    value < 2 ^ 64 := small
    _ ≤ 2 ^ digits := Nat.pow_le_pow_right (by decide) long
    _ ≤ 10 ^ digits := Nat.pow_le_pow_left (by decide) digits

theorem legible_ofNat {value : Nat} (small : value < 2 ^ 64) : (Json.ofNat value).Legible :=
  .integer _ (lt_pow_of_word 299 (by decide) (by simpa using small))

theorem legible_integer {value : Int} (low : -2 ^ 63 ≤ value) (high : value < 2 ^ 63) :
    (Json.integer value).Legible :=
  .integer _ (lt_pow_of_word 299 (by decide) (by omega))

theorem map_eq_ok_iff {α β ε : Type} (read : Except ε α) (convert : α → β) (value : β) :
    read.map convert = .ok value ↔ ∃ given, read = .ok given ∧ convert given = value := by
  cases read <;> simp [Except.map]

/-- Numbers that are read and then narrowed to a type that holds just the numbers in a range. -/
theorem map_narrow_eq_ok_iff {ν τ ε : Type} {read : Json → Except ε ν} {write : ν → Json}
    {InRange : ν → Prop} {narrow : ν → τ} {widen : τ → ν}
    (reads : ∀ doc n, read doc = .ok n ↔ doc = write n ∧ InRange n)
    (widen_narrow : ∀ n, InRange n → widen (narrow n) = n)
    (narrow_widen : ∀ value, narrow (widen value) = value)
    (inRange : ∀ value, InRange (widen value)) (doc : Json) (value : τ) :
    (read doc).map narrow = .ok value ↔ doc = write (widen value) := by
  rw [map_eq_ok_iff]
  constructor
  · intro taken
    obtain ⟨n, found, rfl⟩ := taken
    obtain ⟨rfl, within⟩ := (reads doc n).mp found
    rw [widen_narrow n within]
  · intro written
    exact ⟨widen value, (reads doc _).mpr ⟨written, inRange value⟩, narrow_widen value⟩

instance : Strict UInt8 :=
  ⟨map_narrow_eq_ok_iff (readWord_eq_ok_iff UInt8.size) (fun _ => UInt8.toNat_ofNat_of_lt')
    (fun _ => UInt8.ofNat_toNat) UInt8.toNat_lt_size⟩

instance : Strict UInt16 :=
  ⟨map_narrow_eq_ok_iff (readWord_eq_ok_iff UInt16.size) (fun _ => UInt16.toNat_ofNat_of_lt')
    (fun _ => UInt16.ofNat_toNat) UInt16.toNat_lt_size⟩

instance : Strict UInt32 :=
  ⟨map_narrow_eq_ok_iff (readWord_eq_ok_iff UInt32.size) (fun _ => UInt32.toNat_ofNat_of_lt')
    (fun _ => UInt32.ofNat_toNat) UInt32.toNat_lt_size⟩

instance : Strict UInt64 :=
  ⟨map_narrow_eq_ok_iff (readWord_eq_ok_iff UInt64.size) (fun _ => UInt64.toNat_ofNat_of_lt')
    (fun _ => UInt64.ofNat_toNat) UInt64.toNat_lt_size⟩

instance : Strict Int32 :=
  ⟨map_narrow_eq_ok_iff (readInteger_eq_ok_iff Int32.minValue.toInt Int32.maxValue.toInt)
    (fun _ range => Int32.toInt_ofInt_of_le range.1 (Int.lt_of_le_of_lt range.2 (by decide)))
    Int32.ofInt_toInt (fun value => ⟨value.minValue_le_toInt, value.toInt_le⟩)⟩

instance : Strict Int64 :=
  ⟨map_narrow_eq_ok_iff (readInteger_eq_ok_iff Int64.minValue.toInt Int64.maxValue.toInt)
    (fun _ range => Int64.toInt_ofInt_of_le range.1 (Int.lt_of_le_of_lt range.2 (by decide)))
    Int64.ofInt_toInt (fun value => ⟨value.minValue_le_toInt, value.toInt_le⟩)⟩

instance : Faithful UInt8 :=
  .of_legible fun value => legible_ofNat (Nat.lt_trans value.toNat_lt_size (by decide))

instance : Faithful UInt16 :=
  .of_legible fun value => legible_ofNat (Nat.lt_trans value.toNat_lt_size (by decide))

instance : Faithful UInt32 :=
  .of_legible fun value => legible_ofNat (Nat.lt_trans value.toNat_lt_size (by decide))

instance : Faithful UInt64 := .of_legible fun value => legible_ofNat value.toNat_lt_size

instance : Faithful Int32 :=
  .of_legible fun value => legible_integer (Int.le_trans (by decide) value.minValue_le_toInt)
    (Int.lt_of_le_of_lt value.toInt_le (by decide))

instance : Faithful Int64 :=
  .of_legible fun value => legible_integer value.minValue_le_toInt
    (Int.lt_of_le_of_lt value.toInt_le (by decide))

/-! ## Truth values, texts, options and lists -/

instance : Strict Bool where
  ofJson_eq_ok_iff doc value := by
    cases doc <;> simp [ofJson, toJson]

instance : Faithful Bool := .of_legible fun value => .bool value

instance : Strict String where
  ofJson_eq_ok_iff doc value := by
    cases doc <;> simp [ofJson, toJson]

instance : Faithful String := .of_legible fun value => .string value

/-- `null` stands for nothing, so it may stand for nothing else. -/
theorem Faithful.option {α : Type} [Wire α] [Faithful α] (some_ne : ∀ value : α, toJson value ≠ .null) :
    Faithful (Option α) where
  ofJson_toJson value := by
    cases value with
    | none => rfl
    | some value =>
        have read : (ofJson (toJson value) : Except Fault α).map some = .ok (some value) := by
          rw [ofJson_toJson]
          rfl
        simp only [ofJson, toJson] at read ⊢
        split
        · next void => exact absurd void (some_ne value)
        · exact read
  legible value := by
    cases value with
    | none => exact .null
    | some value => exact Faithful.legible value

instance : Faithful (Option String) := .option fun _ => nofun

section Lists
variable {α : Type} [Wire α]

omit [Wire α] in
theorem mapM_cons_eq_ok_iff {read : Json → Except Fault α} {item : Json} {items : List Json}
    {values : List α} :
    (item :: items).mapM read = .ok values ↔
      ∃ value rest, read item = .ok value ∧ items.mapM read = .ok rest ∧ values = value :: rest := by
  rw [List.mapM_cons]
  cases read item with
  | error fault => simp [bind, Except.bind]
  | ok value =>
      cases items.mapM read <;> simp [bind, Except.bind, pure, Except.pure, eq_comm]

theorem mapM_ofJson_eq_ok_iff [Strict α] (items : List Json) (values : List α) :
    items.mapM ofJson = .ok values ↔ items = values.map toJson := by
  induction items generalizing values with
  | nil =>
      rw [List.mapM_nil]
      cases values <;> simp [pure, Except.pure]
  | cons item items ih =>
      simp only [mapM_cons_eq_ok_iff, ih, ofJson_eq_ok_iff]
      constructor
      · rintro ⟨value, rest, rfl, rfl, rfl⟩
        rfl
      · intro same
        cases values with
        | nil => cases same
        | cons value rest =>
            cases same
            exact ⟨value, rest, rfl, rfl, rfl⟩

theorem mapM_ofJson_toJson [Faithful α] (values : List α) :
    (values.map toJson).mapM ofJson = (.ok values : Except Fault (List α)) := by
  induction values with
  | nil => rfl
  | cons value values ih =>
      rw [List.map_cons, List.mapM_cons, ofJson_toJson, ih]
      rfl

instance [Strict α] : Strict (List α) where
  ofJson_eq_ok_iff doc values := by
    cases doc with
    | array items => simp only [ofJson, toJson, mapM_ofJson_eq_ok_iff, Json.array.injEq]
    | _ => simp [ofJson, toJson]

instance [Faithful α] : Faithful (List α) where
  ofJson_toJson values := mapM_ofJson_toJson values
  legible values := by
    refine .array _ fun item member => ?_
    obtain ⟨value, -, rfl⟩ := List.mem_map.mp member
    exact Faithful.legible value

end Lists

/-! ## Checked values -/

section Checked
variable {α β ε : Type} [Wire α] [Strict α] {check : α → Except ε β} {embed : β → α}

/-- What a checked conversion takes, if it takes exactly what `embed` gives. -/
theorem readChecked_eq_ok_iff
    (checks : ∀ given value, check given = .ok value ↔ embed value = given) (doc : Json)
    (value : β) : readChecked check doc = .ok value ↔ doc = toJson (embed value) := by
  rw [← ofJson_eq_ok_iff]
  simp only [readChecked]
  cases found : (ofJson doc : Except Fault α) with
  | error fault => simp [bind, Except.bind]
  | ok given =>
      simp only [bind, Except.bind, Except.ok.injEq, eq_comm (a := given), ← checks]
      cases check given <;> simp [pure, Except.pure, throw, throwThe, MonadExceptOf.throw]

end Checked

end Json

open Json

theorem Dscp.ofCodepoint_eq_ok_iff (codepoint : UInt8) (dscp : Dscp) :
    ofCodepoint codepoint = .ok dscp ↔ dscp.codepoint = codepoint := by
  constructor
  · intro found
    rw [ofCodepoint] at found
    split at found
    · next among =>
        cases found
        simpa using List.find?_some among
    · cases found
  · rintro rfl
    cases dscp <;> rfl

instance : Strict Dscp := ⟨readChecked_eq_ok_iff Dscp.ofCodepoint_eq_ok_iff⟩

instance : Strict SampleRate := ⟨readChecked_eq_ok_iff SampleRate.ofHz_eq_ok_iff⟩

instance : Strict ChannelMap := ⟨readChecked_eq_ok_iff ChannelMap.ofIndices_eq_ok_iff⟩

instance : Faithful Dscp := .of_legible fun dscp => Faithful.legible dscp.codepoint

instance : Faithful SampleRate := .of_legible fun rate => Faithful.legible rate.hz

instance : Faithful ChannelMap := .of_legible fun map => Faithful.legible map.indices

/-! ## Words -/

instance : Faithful Codec where
  ofJson_toJson codec := by cases codec <;> rfl
  legible codec := .string codec.name

instance : Faithful RatePolicy where
  ofJson_toJson policy := by cases policy <;> rfl
  legible policy := .string policy.word

instance : Faithful StreamKind where
  ofJson_toJson kind := by cases kind <;> rfl
  legible kind := .string kind.word

instance : Faithful EditMode where
  ofJson_toJson mode := by cases mode <;> rfl
  legible mode := .string mode.word

end NetAudio
