import NetAudio.Text.Decimal

/-!
# Decimal digits of numbers

The digits of a number have the number as their value, begin with a zero only for zero, and are read
back by every reader whose bound the number keeps to.  A numeral that does not begin with a zero before
other digits is the digits of its value.
-/

set_option autoImplicit false

namespace NetAudio.Decimal

theorem isDigit_of_mem {n : Nat} {c : Char} (member : c ∈ Nat.toDigits 10 n) : c.isDigit = true :=
  Nat.isDigit_of_mem_toDigits (by decide) (by decide) member

theorem head_toDigits_ne_zero (n : Nat) (positive : 0 < n) :
    ∃ first rest, Nat.toDigits 10 n = first :: rest ∧ first ≠ '0' := by
  -- The leading digit of a number with several is that of its tenth.
  induction n using Nat.strongRecOn with
  | _ n ih =>
      rw [Nat.toDigits_eq_if (by decide)]
      split
      · exact ⟨_, _, rfl, by simp; omega⟩
      · next large =>
          obtain ⟨first, rest, written, nonzero⟩ := ih (n / 10) (by omega) (by omega)
          exact ⟨first, rest ++ [(n % 10).digitChar], by simp [written], nonzero⟩

theorem valueOf_eq (chars : List Char) : valueOf chars = Nat.ofDigitChars 10 chars 0 := by
  simp only [valueOf, Nat.ofDigitChars_eq_foldl, Nat.mul_comm 10]

theorem le_ofDigitChars (chars : List Char) (acc : Nat) :
    acc ≤ Nat.ofDigitChars 10 chars acc := by
  rw [Nat.ofDigitChars_eq_ofDigitChars_zero]
  have scaled : acc ≤ 10 ^ chars.length * acc := Nat.le_mul_of_pos_left acc (Nat.pow_pos (by decide))
  omega

/-- A number is read digit by digit as long as it stays within the bound. -/
theorem digits_of_le (max : Nat) (chars : List Char) (acc : Nat)
    (numeric : ∀ c ∈ chars, c.isDigit = true) (bounded : Nat.ofDigitChars 10 chars acc ≤ max) :
    digits max acc chars = .ok (Nat.ofDigitChars 10 chars acc) := by
  induction chars generalizing acc with
  | nil => rw [digits, Nat.ofDigitChars_nil]
  | cons c rest ih =>
      rw [Nat.ofDigitChars_cons, Nat.mul_comm 10] at bounded ⊢
      have next := Nat.le_trans (le_ofDigitChars rest _) bounded
      rw [digits, digit?, if_pos (numeric c List.mem_cons_self)]
      simp only [if_pos next]
      exact ih _ (fun d member => numeric d (List.mem_cons_of_mem c member)) bounded

theorem read_repr {max n : Nat} (bounded : n ≤ max) : read max n.repr = .ok n := by
  obtain ⟨first, rest, written⟩ := List.exists_cons_of_ne_nil (Nat.toDigits_ne_nil (n := n) (b := 10))
  have unsigned : first ≠ '+' := by
    rintro rfl
    have numeric : '+'.isDigit = true := isDigit_of_mem (n := n) (by simp [written])
    revert numeric
    decide
  have whole : digits max 0 (first :: rest) = .ok n := by
    rw [← written]
    have value := Nat.ofDigitChars_ten_toDigits (n := n)
    rw [digits_of_le max _ 0 (fun c => isDigit_of_mem) (by omega), value]
  rw [read, Nat.toList_repr, written]
  split
  · contradiction
  · next alone => exact absurd (List.cons.inj alone).1 unsigned
  · next signed => exact absurd (List.cons.inj signed).1 unsigned
  · exact whole

/-! ## How numbers are written -/

theorem digitChar_of_isDigit {c : Char} (numeric : c.isDigit = true) :
    (c.toNat - '0'.toNat).digitChar = c ∧ c.toNat - '0'.toNat < 10 := by
  simp only [Char.isDigit, Bool.and_eq_true, decide_eq_true_eq, UInt32.le_iff_toNat_le] at numeric
  have zero : '0'.toNat = 48 := rfl
  have range : 48 ≤ c.toNat ∧ c.toNat ≤ 57 := numeric
  refine ⟨?_, by omega⟩
  apply Char.toNat_inj.mp
  rw [Nat.toNat_digitChar_of_lt_ten (by omega)]
  omega

/-- Digits behind a number that is not zero are the last digits of the longer one. -/
theorem toDigits_ofDigitChars_of_pos (chars : List Char) (acc : Nat) (positive : 0 < acc)
    (numeric : ∀ c ∈ chars, c.isDigit = true) :
    Nat.toDigits 10 (Nat.ofDigitChars 10 chars acc) = Nat.toDigits 10 acc ++ chars := by
  induction chars generalizing acc with
  | nil => rw [Nat.ofDigitChars_nil, List.append_nil]
  | cons c rest ih =>
      rw [List.forall_mem_cons] at numeric
      obtain ⟨written, small⟩ := digitChar_of_isDigit numeric.1
      have longer := Nat.toDigits_append_toDigits (by decide) positive small
      rw [Nat.toDigits_of_lt_base small, written] at longer
      rw [Nat.ofDigitChars_cons, ih _ (by omega) numeric.2, ← longer, List.append_assoc]
      rfl

/-- A numeral without leading zeros is how its number is written. -/
theorem toDigits_ofDigitChars {chars : List Char} (some : chars ≠ [])
    (numeric : ∀ c ∈ chars, c.isDigit = true)
    (unpadded : chars.head? = .some '0' → chars.length ≤ 1) :
    Nat.toDigits 10 (Nat.ofDigitChars 10 chars 0) = chars := by
  obtain ⟨c, rest, rfl⟩ := List.exists_cons_of_ne_nil some
  rw [List.forall_mem_cons] at numeric
  obtain ⟨written, small⟩ := digitChar_of_isDigit numeric.1
  rw [Nat.ofDigitChars_cons, Nat.mul_zero, Nat.zero_add]
  by_cases zero : c = '0'
  · subst zero
    have alone : rest = [] := by simpa using unpadded rfl
    subst alone
    rfl
  · have positive : 0 < c.toNat - '0'.toNat := by
      rw [Nat.pos_iff_ne_zero]
      intro none
      rw [none] at written
      exact zero written.symm
    rw [toDigits_ofDigitChars_of_pos rest _ positive numeric.2, Nat.toDigits_of_lt_base small, written]
    rfl

/-! ## What is a number -/

/-- A number as a text: an optional plus and at least one digit. -/
def Spells (chars : List Char) (n : Nat) : Prop :=
  ∃ numerals, (chars = numerals ∨ chars = '+' :: numerals) ∧ numerals ≠ [] ∧
    (∀ c ∈ numerals, c.isDigit = true) ∧ Nat.ofDigitChars 10 numerals 0 = n

theorem digits_eq_ok_iff (max : Nat) (chars : List Char) (acc n : Nat) :
    digits max acc chars = .ok n ↔
      (∀ c ∈ chars, c.isDigit = true) ∧ Nat.ofDigitChars 10 chars acc = n ∧
        (chars = [] ∨ n ≤ max) := by
  induction chars generalizing acc with
  | nil => simp [digits]
  | cons c rest ih =>
      rw [digits, digit?, List.forall_mem_cons, Nat.ofDigitChars_cons, Nat.mul_comm 10]
      by_cases numeric : c.isDigit = true
      · simp only [if_pos numeric]
        by_cases fits : acc * 10 + (c.toNat - '0'.toNat) ≤ max
        · rw [if_pos fits, ih]
          constructor
          · rintro ⟨numerals, rfl, short | small⟩
            · rw [short]
              exact ⟨⟨numeric, nofun⟩, rfl, .inr fits⟩
            · exact ⟨⟨numeric, numerals⟩, rfl, .inr small⟩
          · rintro ⟨⟨-, numerals⟩, value, other | small⟩
            · cases other
            · exact ⟨numerals, value, .inr small⟩
        · rw [if_neg fits]
          constructor
          · nofun
          · rintro ⟨-, rfl, other | small⟩
            · cases other
            · exact absurd (Nat.le_trans (le_ofDigitChars rest _) small) fits
      · simp [numeric]

/-- A text is read exactly if it spells a number within the bound. -/
theorem read_eq_ok_iff (max : Nat) (text : String) (n : Nat) :
    read max text = .ok n ↔ Spells text.toList n ∧ n ≤ max := by
  have numeral (chars : List Char) (some : chars ≠ []) :
      digits max 0 chars = .ok n ↔ ((∀ c ∈ chars, c.isDigit = true) ∧
        Nat.ofDigitChars 10 chars 0 = n) ∧ n ≤ max := by
    rw [digits_eq_ok_iff, and_assoc]
    simp only [some, false_or]
  rw [read]
  split
  · next nothing => simp [Spells, nothing]
  · next alone => simp [Spells, alone]
  · next rest short signed =>
      have more : rest ≠ [] := by
        rintro rfl
        exact short rfl
      rw [numeral rest more, signed]
      refine and_congr_left' ⟨fun spelled => ⟨rest, .inr rfl, more, spelled⟩, ?_⟩
      rintro ⟨numerals, same | same, -, digits, value⟩
      · subst same
        exact absurd (digits '+' List.mem_cons_self) (by decide)
      · cases same
        exact ⟨digits, value⟩
  · next some alone unsigned =>
      rw [numeral _ some]
      refine and_congr_left' ⟨fun spelled => ⟨_, .inl rfl, some, spelled⟩, ?_⟩
      rintro ⟨numerals, same | same, -, digits, value⟩
      · subst same
        exact ⟨digits, value⟩
      · exact absurd same (unsigned numerals)

theorem readU32_eq_ok_iff (text : String) (word : UInt32) :
    readU32 text = .ok word ↔ Spells text.toList word.toNat := by
  have bound : word.toNat ≤ UInt32.size - 1 := Nat.le_sub_one_of_lt word.toNat_lt
  rw [← and_iff_left (a := Spells text.toList word.toNat) bound, ← read_eq_ok_iff, readU32]
  cases found : read (UInt32.size - 1) text with
  | error fault => simp [Except.map]
  | ok n =>
      have small := ((read_eq_ok_iff _ text n).mp found).2
      have held : n < UInt32.size := Nat.lt_of_le_of_lt small (by decide)
      have value : (UInt32.ofNat n).toNat = n := UInt32.toNat_ofNat_of_lt held
      simp only [Except.map, Except.ok.injEq]
      rw [← UInt32.toNat_inj, value]

theorem exists_readU16_iff (text : String) :
    (∃ value, readU16 text = .ok value) ↔ ∃ n, Spells text.toList n ∧ n ≤ 65535 := by
  have bound : UInt16.size - 1 = 65535 := rfl
  simp only [← read_eq_ok_iff]
  rw [readU16, bound]
  cases read 65535 text <;> simp [Except.map]

end NetAudio.Decimal
