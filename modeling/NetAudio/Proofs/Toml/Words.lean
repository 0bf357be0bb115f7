import Mathlib.Data.List.Basic
import NetAudio.Proofs.Text.Digits
import NetAudio.Toml.Word
import NetAudio.Toml.Writer

/-!
# Reading words back

Booleans and integers are read back from the words that they are written as, up to the end of the line.
-/

set_option autoImplicit false

namespace NetAudio.Toml

/-! ## Digits -/

section Digits
variable {chars : List Char} (numeric : ∀ c ∈ chars, c.isDigit = true)

include numeric

theorem isGrouped_of_digits (some : chars ≠ []) : isGrouped Char.isDigit chars = true := by
  induction chars with
  | nil => exact absurd rfl some
  | cons c rest ih =>
      rw [List.forall_mem_cons] at numeric
      obtain ⟨first, others⟩ := numeric
      cases rest with
      | nil => exact first
      | cons d rest =>
          have digit : d ≠ '_' := by
            rintro rfl
            exact absurd (others '_' List.mem_cons_self) (by decide)
          rw [isGrouped, first, Bool.true_and]
          · exact ih others nofun
          · nofun
          · rintro more ⟨⟩
            exact digit rfl

theorem valueIn_digits : valueIn 10 chars = Nat.ofDigitChars 10 chars 0 := by
  have unspaced : chars.filter (· ≠ '_') = chars := by
    rw [List.filter_eq_self]
    intro c member
    rw [decide_eq_true_eq]
    rintro rfl
    exact absurd (numeric '_' member) (by decide)
  have values : ∀ c ∈ chars, ∀ acc : Nat,
      acc * 10 + (Percent.hexValue? c).getD 0 = acc * 10 + (c.toNat - '0'.toNat) := by
    intro c member acc
    rw [Percent.hexValue?, if_pos (numeric c member), Option.getD_some]
  rw [valueIn, unspaced, ← Decimal.valueOf_eq, Decimal.valueOf]
  exact List.foldl_ext _ _ 0 fun acc c member => values c member acc

end Digits

theorem isDigit_toDigits (n : Nat) : ∀ c ∈ Nat.toDigits 10 n, c.isDigit = true :=
  fun _ => Decimal.isDigit_of_mem

theorem isWhole_toDigits (n : Nat) : isWhole (Nat.toDigits 10 n) = true := by
  rcases Nat.eq_zero_or_pos n with rfl | positive
  · decide
  · obtain ⟨first, rest, written, nonzero⟩ := Decimal.head_toDigits_ne_zero n positive
    have grouped := isGrouped_of_digits (isDigit_toDigits n) Nat.toDigits_ne_nil
    rw [isWhole, grouped, written]
    simp [nonzero]

theorem valueIn_toDigits (n : Nat) : valueIn 10 (Nat.toDigits 10 n) = n := by
  rw [valueIn_digits (isDigit_toDigits n), Nat.ofDigitChars_ten_toDigits]

/-! ## Integers -/

theorem cutSign_toDigits (n : Nat) : cutSign (Nat.toDigits 10 n) = (false, Nat.toDigits 10 n) := by
  have unsigned (sign : Char) (mark : sign.isDigit = false) : sign ∉ Nat.toDigits 10 n := by
    intro member
    rw [isDigit_toDigits n sign member] at mark
    cases mark
  unfold cutSign
  split
  · next written => exact absurd (written ▸ List.mem_cons_self) (unsigned '-' rfl)
  · next written => exact absurd (written ▸ List.mem_cons_self) (unsigned '+' rfl)
  · rfl

theorem integerOf?_decimal {word : List Char}
    (unbased : ∀ c rest, word = '0' :: c :: rest → c.isDigit = true) {negative : Bool} {n : Nat}
    (cut : cutSign word = (negative, Nat.toDigits 10 n)) :
    integerOf? word =
      (some (if negative then -(n : Int) else n) : Option Int).filter holdsInteger := by
  unfold integerOf?
  split
  · next rest => exact absurd (unbased 'x' rest rfl) (by decide)
  · next rest => exact absurd (unbased 'o' rest rfl) (by decide)
  · next rest => exact absurd (unbased 'b' rest rfl) (by decide)
  · rw [cut]
    simp only [isWhole_toDigits, valueIn_toDigits, if_true]

/-- The digits of an integer after its sign. -/
theorem exists_sign (value : Int) : ∃ negative n, (if negative then -(n : Int) else n) = value ∧
    cutSign (toString value).toList = (negative, Nat.toDigits 10 n) ∧
    (toString value).toList = (if negative then ['-'] else []) ++ Nat.toDigits 10 n := by
  rw [Int.toString_eq_repr, Int.repr_eq_if]
  split
  · next positive =>
      refine ⟨false, value.toNat, Int.toNat_of_nonneg positive, ?_, ?_⟩
      · rw [Nat.toList_repr, cutSign_toDigits]
      · rw [Nat.toList_repr]
        rfl
  · next negative =>
      have same : -((-value).toNat : Int) = value := by omega
      refine ⟨true, (-value).toNat, same, ?_, ?_⟩
      · rw [String.toList_append, Nat.toList_repr]
        rfl
      · rw [String.toList_append, Nat.toList_repr]
        rfl

theorem integerOf?_toString {value : Int} (holds : holdsInteger value = true) :
    integerOf? (toString value).toList = some value := by
  obtain ⟨negative, n, same, cut, written⟩ := exists_sign value
  have unbased : ∀ c rest, (toString value).toList = '0' :: c :: rest → c.isDigit = true := by
    intro c rest begun
    rw [written] at begun
    cases negative with
    | true => cases begun
    | false =>
        have whole : Nat.toDigits 10 n = '0' :: c :: rest := begun
        exact isDigit_toDigits n c (whole ▸ List.mem_cons_of_mem _ List.mem_cons_self)
  rw [integerOf?_decimal unbased cut, same]
  simp [holds]

/-! ## Any word -/

theorem isWordChar_toString (value : Int) : ∀ c ∈ (toString value).toList, isWordChar c = true := by
  obtain ⟨negative, n, -, -, written⟩ := exists_sign value
  intro c member
  rw [written, List.mem_append] at member
  rcases member with sign | digit
  · cases negative with
    | true =>
        obtain rfl := List.mem_singleton.mp sign
        rfl
    | false => cases sign
  · have numeric := isDigit_toDigits n c digit
    simp [isWordChar, Char.isAlphanum, numeric]

theorem ofWord?_integer {value : Int} (holds : holdsInteger value = true) :
    ofWord? (toString value).toList = some (.integer value) := by
  have read := integerOf?_toString holds
  have other (word : String) (spelt : integerOf? word.toList = none) :
      (toString value).toList ≠ word.toList := by
    intro same
    rw [same, spelt] at read
    cases read
  rw [ofWord?, if_neg (other "true" rfl), if_neg (other "false" rfl), read]

theorem cutWord_line {word : List Char} (letters : ∀ c ∈ word, isWordChar c = true)
    (rest : List Char) : cutWord (word ++ '\n' :: rest) = (word, '\n' :: rest) := by
  have taken : (word ++ '\n' :: rest).takeWhile isWordChar = word := by
    rw [List.takeWhile_append_of_pos letters, List.takeWhile_cons_of_neg (by decide), List.append_nil]
  have left : (word ++ '\n' :: rest).dropWhile isWordChar = '\n' :: rest := by
    rw [List.dropWhile_append_of_pos letters, List.dropWhile_cons_of_neg (by decide)]
  rw [cutWord, taken, left]
  rfl

end NetAudio.Toml
