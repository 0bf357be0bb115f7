import NetAudio.Net.Address
import NetAudio.Proofs.Text.Digits
import NetAudio.Proofs.Text.Parts

/-!
# The dotted form of addresses

A text is read as an IPv4 address exactly if it is the dotted form of that address, character by
character.
-/

set_option autoImplicit false

namespace NetAudio.Ipv4

def text (address : Ipv4) : String :=
  s!"{address.a.toNat}.{address.b.toNat}.{address.c.toNat}.{address.d.toNat}"

theorem toList_text (address : Ipv4) :
    address.text.toList =
      Nat.toDigits 10 address.a.toNat ++ '.' :: (Nat.toDigits 10 address.b.toNat ++
        '.' :: (Nat.toDigits 10 address.c.toNat ++ '.' :: Nat.toDigits 10 address.d.toNat)) := by
  have dot : (toString ".").toList = ['.'] := rfl
  simp [text, Nat.toList_repr, dot]

/-! ## Octets -/

theorem octet?_toDigits (octet : UInt8) : octet? (Nat.toDigits 10 octet.toNat) = some octet := by
  have bound : octet.toNat < 256 := octet.toNat_lt
  have short : (Nat.toDigits 10 octet.toNat).length ≤ 3 :=
    (Nat.length_toDigits_le_iff (by decide) (by decide)).mpr (by omega)
  have numeric : (Nat.toDigits 10 octet.toNat).all Char.isDigit = true :=
    List.all_eq_true.mpr fun c => Decimal.isDigit_of_mem
  have unpadded : ¬ ((Nat.toDigits 10 octet.toNat).head? = some '0' ∧
      1 < (Nat.toDigits 10 octet.toNat).length) := by
    rintro ⟨padded, longer⟩
    rcases Nat.eq_zero_or_pos octet.toNat with zero | positive
    · rw [zero] at longer
      exact absurd longer (by decide)
    · obtain ⟨first, rest, written, nonzero⟩ := Decimal.head_toDigits_ne_zero _ positive
      rw [written] at padded
      exact nonzero (Option.some.inj padded)
  have value : (Nat.toDigits 10 octet.toNat).foldl
      (fun acc c => acc * 10 + (c.toNat - '0'.toNat)) 0 = octet.toNat :=
    (Decimal.valueOf_eq _).trans Nat.ofDigitChars_ten_toDigits
  rw [octet?, if_neg, if_neg unpadded, value, if_pos bound, UInt8.ofNat_toNat]
  simp [Nat.toDigits_ne_nil, numeric, short]

theorem octet?_eq_some_iff (digits : List Char) (octet : UInt8) :
    octet? digits = some octet ↔ digits = Nat.toDigits 10 octet.toNat := by
  constructor
  · intro read
    simp only [octet?, List.isEmpty_iff] at read
    split at read
    · cases read
    · next shaped =>
        split at read
        · cases read
        · next unpadded =>
            split at read
            · next bound =>
                cases read
                obtain ⟨some, -, figures⟩ := by simpa only [not_or] using shaped
                have numeric : ∀ c ∈ digits, c.isDigit = true := by simpa using figures
                have written := Decimal.toDigits_ofDigitChars some numeric
                  fun padded => Nat.le_of_not_lt fun longer => unpadded ⟨padded, longer⟩
                have held := UInt8.toNat_ofNat_of_lt bound
                rw [← Decimal.valueOf_eq] at written
                exact written.symm.trans (congrArg (Nat.toDigits 10) held.symm)
            · cases read
  · rintro rfl
    exact octet?_toDigits octet

theorem mapM_octet?_eq_some_iff (parts : List (List Char)) (octets : List UInt8) :
    parts.mapM octet? = some octets ↔
      parts = octets.map fun octet => Nat.toDigits 10 octet.toNat := by
  induction parts generalizing octets with
  | nil => cases octets <;> simp
  | cons part parts ih =>
      rw [List.mapM_cons]
      simp only [Option.bind_eq_bind, Option.bind_eq_some_iff, octet?_eq_some_iff, ih,
        Option.pure_def, Option.some.injEq]
      constructor
      · rintro ⟨octet, rfl, rest, rfl, rfl⟩
        rfl
      · intro listed
        cases octets with
        | nil => cases listed
        | cons octet rest =>
            cases listed
            exact ⟨octet, rfl, rest, rfl, rfl⟩

/-! ## Addresses -/

theorem split_text (address : Ipv4) :
    Text.split '.' address.text.toList =
      [address.a, address.b, address.c, address.d].map fun octet => Nat.toDigits 10 octet.toNat := by
  have undotted (n : Nat) : '.' ∉ Nat.toDigits 10 n := by
    intro member
    exact absurd (Decimal.isDigit_of_mem member) (by decide)
  simp [toList_text, Text.split_append_cons, Text.split_of_not_mem, undotted]

theorem ofText?_eq_some_iff (dotted : String) (address : Ipv4) :
    ofText? dotted = some address ↔ dotted = address.text := by
  rw [ofText?, ofChars?]
  constructor
  · intro read
    split at read
    · next a b c d octets =>
        cases read
        have parts := (mapM_octet?_eq_some_iff _ _).mp octets
        have same : Text.split '.' dotted.toList =
            Text.split '.' (text ⟨a, b, c, d⟩).toList := parts.trans (split_text ⟨a, b, c, d⟩).symm
        apply String.toList_injective
        rw [← @Text.intercalate_split '.' dotted.toList, same, Text.intercalate_split]
    · cases read
  · rintro rfl
    rw [split_text, (mapM_octet?_eq_some_iff _ _).mpr rfl]

theorem isSome_ofText?_iff (dotted : String) :
    (ofText? dotted).isSome = true ↔ ∃ address : Ipv4, dotted = address.text := by
  simp only [Option.isSome_iff_exists, ofText?_eq_some_iff]

/-- No zero may stand before other digits. -/
example : (ofText? "10.0.0.7").isSome = true ∧ ofText? "10.0.0.07" = none := by
  decide

end NetAudio.Ipv4
