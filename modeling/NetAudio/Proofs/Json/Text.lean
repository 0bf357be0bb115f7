import NetAudio.Json.Reader
import NetAudio.Json.Writer
import NetAudio.Proofs.Text.Digits
import Mathlib.Algebra.Group.Nat.Defs
import Mathlib.Data.List.TakeWhile

/-!
# Reading what was written

A document without decimals, voids and cuts, whose integers stay in the range of doubles, is read back
from the text it is written as, whatever its strings hold.  `Written chars doc` says what the scanner
and the builder together make of such a text in the middle of a longer one.
-/

set_option autoImplicit false

namespace NetAudio.Json

/-- The documents that are read back as they were written. -/
inductive Legible : Json → Prop where
  | null : Legible .null
  | bool (value : Bool) : Legible (.bool value)
  | integer (value : Int) (small : value.natAbs < 10 ^ 299) : Legible (.integer value)
  | string (value : String) : Legible (.string value)
  | array (items : List Json) (each : ∀ item ∈ items, Legible item) : Legible (.array items)
  | object (members : List (String × Json)) (each : ∀ member ∈ members, Legible member.2) :
      Legible (.object members)

def Stops (rest : List Char) : Prop :=
  rest = [] ∨ ∃ c more, rest = c :: more ∧ (c = ',' ∨ c = ']' ∨ c = '\x7d')

theorem stops_cons {c : Char} (mark : c = ',' ∨ c = ']' ∨ c = '\x7d') (more : List Char) :
    Stops (c :: more) :=
  .inr ⟨c, more, rfl, mark⟩

def Expect.TakesValue (expect : Expect) : Prop := expect = .value ∨ expect = .itemOrEnd

/-- What `chars` stand for wherever a value may come: one finished value, and nothing of what follows
is touched. -/
def Written (chars : List Char) (doc : Json) : Prop :=
  ∀ (stack : List Frame) (expect : Expect) (rest : List Char), expect.TakesValue → Stops rest →
    build stack expect (Mode.between.scan (chars ++ rest)) =
      build stack (.after doc) (Mode.between.scan rest)

/-! ## Scanning -/

theorem scan_cons {mode next : Mode} {c : Char} {found : List Token} (rest : List Char)
    (stepped : mode.step c = (found, next)) :
    mode.scan (c :: rest) = found ++ next.scan rest := by
  rw [Mode.scan, stepped]

/-! ### Numbers -/

theorem not_digit_of_stop {c : Char} (stop : c = ',' ∨ c = ']' ∨ c = '\x7d') :
    c.isDigit = false ∧ c ≠ '.' ∧ c ≠ 'e' ∧ c ≠ 'E' := by
  rcases stop with rfl | rfl | rfl <;> decide

/-- A number ends before a comma, before the end of a container and at the end of the text. -/
theorem scan_number_end {stage : NumberStage} (ends : stage = .zero ∨ stage = .whole)
    (chars rest : List Char) (stops : Stops rest) :
    (Mode.number stage chars).scan rest =
      .scalar (ofNumber chars.reverse) :: Mode.between.scan rest := by
  rcases stops with rfl | ⟨c, more, rfl, stop⟩
  · rcases ends with rfl | rfl <;> rfl
  · obtain ⟨digit, point, small, large⟩ := not_digit_of_stop stop
    have stepped : (Mode.number stage chars).step c =
        (.scalar (ofNumber chars.reverse) :: (Mode.enter c).1, (Mode.enter c).2) := by
      rcases ends with rfl | rfl <;>
        simp [Mode.step, NumberStage.next?, NumberStage.mayEnd, digit, point, small, large]
    have anew : Mode.between.scan (c :: more) = (Mode.enter c).1 ++ (Mode.enter c).2.scan more :=
      scan_cons more rfl
    rw [scan_cons more stepped, anew]
    rfl

theorem scan_digits (digits : List Char) (numeric : ∀ c ∈ digits, c.isDigit = true)
    (chars rest : List Char) (stops : Stops rest) :
    (Mode.number .whole chars).scan (digits ++ rest) =
      .scalar (ofNumber (chars.reverse ++ digits)) :: Mode.between.scan rest := by
  induction digits generalizing chars with
  | nil => simpa using scan_number_end (.inr rfl) chars rest stops
  | cons c digits ih =>
      have numericHead := numeric c List.mem_cons_self
      have stepped : (Mode.number .whole chars).step c = ([], .number .whole (c :: chars)) := by
        simp [Mode.step, NumberStage.next?, numericHead]
      rw [List.cons_append, scan_cons _ stepped,
        ih (fun d member => numeric d (List.mem_cons_of_mem c member))]
      simp

theorem pastDouble_of_lt {n digits : Nat} (positive : 0 < digits) (few : digits ≤ 299)
    (small : n < 10 ^ digits) : Decimal.pastDouble n 0 = false := by
  have size := (Nat.length_repr_le_iff positive).mpr small
  rw [Decimal.pastDouble, if_pos]
  rw [Nat.toString_eq_repr]
  omega

theorem ofNumber_digits {n : Nat} (small : n < 10 ^ 299) :
    ofNumber (Nat.toDigits 10 n) = .integer n := by
  have numeric : ∀ c ∈ Nat.toDigits 10 n, c.isDigit = true := fun c => Decimal.isDigit_of_mem
  have unsigned : (Nat.toDigits 10 n).head? ≠ some '-' := by
    intro signed
    have digit := numeric '-' (List.mem_of_head? signed)
    revert digit
    decide
  have whole := List.takeWhile_eq_self_iff.mpr numeric
  have after := List.dropWhile_eq_nil_iff.mpr numeric
  simp [ofNumber, unsigned, whole, after, Decimal.valueOf_eq, pastDouble_of_lt (by decide) le_rfl small]

theorem ofNumber_negative {n : Nat} (small : n < 10 ^ 299) (positive : 0 < n) :
    ofNumber ('-' :: Nat.toDigits 10 n) = .integer (-n) := by
  have numeric : ∀ c ∈ Nat.toDigits 10 n, c.isDigit = true := fun c => Decimal.isDigit_of_mem
  have whole := List.takeWhile_eq_self_iff.mpr numeric
  have after := List.dropWhile_eq_nil_iff.mpr numeric
  have nonzero : n ≠ 0 := by omega
  simp [ofNumber, whole, after, Decimal.valueOf_eq, pastDouble_of_lt (by decide) le_rfl small, nonzero]

theorem scan_natural {n : Nat} (small : n < 10 ^ 299) (rest : List Char) (stops : Stops rest) :
    Mode.between.scan (Nat.toDigits 10 n ++ rest) =
      .scalar (.integer n) :: Mode.between.scan rest := by
  rcases Nat.eq_zero_or_pos n with rfl | positive
  · have entered : Mode.between.step '0' = ([], .number .zero ['0']) := rfl
    have number : ofNumber ['0'] = .integer 0 := ofNumber_digits small
    rw [Nat.toDigits_zero, List.singleton_append, scan_cons rest entered, List.nil_append,
      scan_number_end (.inl rfl) _ rest stops, List.reverse_singleton, number]
    rfl
  · obtain ⟨first, digits, written, nonzero⟩ := Decimal.head_toDigits_ne_zero n positive
    have numeric : ∀ c ∈ first :: digits, c.isDigit = true := by
      rw [← written]
      exact fun c => Decimal.isDigit_of_mem
    have entered : Mode.between.step first = ([], .number .whole [first]) := by
      have digit := numeric first List.mem_cons_self
      have visible : isBlank first = false := by
        simp only [isBlank, Bool.or_eq_false_iff, decide_eq_false_iff_not]
        refine ⟨⟨⟨?_, ?_⟩, ?_⟩, ?_⟩ <;> rintro rfl <;> revert digit <;> decide
      simp [Mode.step, Mode.enter, visible, digit, nonzero]
    have number := ofNumber_digits small
    rw [written] at number
    rw [written, List.cons_append, scan_cons _ entered, List.nil_append,
      scan_digits digits (fun c member => numeric c (List.mem_cons_of_mem first member)) _ rest stops,
      List.reverse_singleton, List.singleton_append, number]

theorem scan_integer {value : Int} (small : value.natAbs < 10 ^ 299) (rest : List Char)
    (stops : Stops rest) :
    Mode.between.scan ((toString value).toList ++ rest) =
      .scalar (.integer value) :: Mode.between.scan rest := by
  rw [Int.toString_eq_repr, Int.repr_eq_if]
  split
  · next positive =>
      have same : (value.toNat : Int) = value := Int.toNat_of_nonneg positive
      rw [Nat.toList_repr, scan_natural (by omega) rest stops, same]
  · next negative =>
      have positive : 0 < (-value).toNat := by omega
      have same : -((-value).toNat : Int) = value := by omega
      obtain ⟨first, digits, written, nonzero⟩ :=
        Decimal.head_toDigits_ne_zero (-value).toNat positive
      have numeric : ∀ c ∈ first :: digits, c.isDigit = true := by
        rw [← written]
        exact fun c => Decimal.isDigit_of_mem
      have entered : Mode.between.step '-' = ([], .number .minus ['-']) := rfl
      have begun : (Mode.number .minus ['-']).step first = ([], .number .whole [first, '-']) := by
        simp [Mode.step, NumberStage.next?, nonzero, numeric first List.mem_cons_self]
      have number := ofNumber_negative (n := (-value).toNat) (by omega) positive
      rw [written, same] at number
      rw [String.toList_append, Nat.toList_repr, written, List.append_assoc, List.cons_append]
      change Mode.between.scan ('-' :: first :: (digits ++ rest)) = _
      rw [scan_cons _ entered, List.nil_append, scan_cons _ begun, List.nil_append, scan_digits digits
        (fun c member => numeric c (List.mem_cons_of_mem first member)) _ rest stops]
      simp [number]

/-! ### Strings -/

theorem hexDigit?_hexDigit : ∀ n < 16, hexDigit? (hexDigit n) = some n := by decide

def plainSoFar (chars : List Char) : StringSoFar := { chars, high := none, unpaired := false }

theorem scan_escaped_char (c : Char) (chars rest : List Char) :
    (Mode.string (plainSoFar chars)).scan (escapeChar c ++ rest) =
      (Mode.string (plainSoFar (c :: chars))).scan rest := by
  unfold escapeChar
  split
  all_goals try rfl
  next quote backslash _ _ _ _ _ =>
  split
  · next control =>
      have high := hexDigit?_hexDigit (c.toNat / 16) (by omega)
      have low := hexDigit?_hexDigit (c.toNat % 16) (by omega)
      have value : c.toNat / 16 * 16 + c.toNat % 16 = c.toNat := by omega
      have zero : hexDigit? '0' = some 0 := rfl
      have unit : (plainSoFar chars).pushUnit c.toNat = plainSoFar (c :: chars) := by
        simp only [StringSoFar.pushUnit, StringSoFar.push, plainSoFar]
        rw [if_neg (by omega), if_neg (by omega), Char.ofNat_toNat]
        rfl
      simp [Mode.scan, Mode.step, high, low, zero, value, unit]
  · next visible =>
      have stepped : (Mode.string (plainSoFar chars)).step c =
          ([], .string (plainSoFar (c :: chars))) := by
        rw [Mode.step, if_neg quote, if_neg backslash, if_neg visible]
        rfl
      rw [List.singleton_append, scan_cons rest stepped, List.nil_append]

theorem scan_escaped (text chars rest : List Char) :
    (Mode.string (plainSoFar chars)).scan (text.flatMap escapeChar ++ '"' :: rest) =
      .string (some (String.ofList (chars.reverse ++ text))) :: Mode.between.scan rest := by
  induction text generalizing chars with
  | nil =>
      have stepped : (Mode.string (plainSoFar chars)).step '"' =
          ([.string (some (String.ofList chars.reverse))], .between) := rfl
      rw [List.flatMap_nil, List.nil_append, scan_cons rest stepped, List.append_nil]
      rfl
  | cons c text ih =>
      rw [List.flatMap_cons, List.append_assoc, scan_escaped_char, ih]
      simp

theorem scan_quoted (text : String) (rest : List Char) :
    Mode.between.scan ((quoted text).toList ++ rest) =
      .string (some text) :: Mode.between.scan rest := by
  have entered : Mode.between.step '"' = ([], .string (plainSoFar [])) := rfl
  have body := scan_escaped text.toList [] rest
  rw [List.reverse_nil, List.nil_append, String.ofList_toList] at body
  simpa [quoted, scan_cons _ entered] using body

/-! ## Building -/

theorem written_scalar {chars : List Char} {doc : Json}
    (scanned : ∀ rest, Stops rest →
      Mode.between.scan (chars ++ rest) = .scalar doc :: Mode.between.scan rest) :
    Written chars doc := by
  intro stack expect rest takes stops
  rw [scanned rest stops]
  rcases takes with rfl | rfl <;> rfl

theorem written_string (text : String) : Written (quoted text).toList (.string text) := by
  intro stack expect rest takes stops
  rw [scan_quoted]
  rcases takes with rfl | rfl <;> rfl

theorem writeItems_cons (item next : Json) (later : List Json) :
    writeItems (item :: next :: later) = item.write ++ "," ++ writeItems (next :: later) := by
  rw [writeItems]
  exact List.cons_ne_nil next later

theorem writeMembers_cons (name : String) (value : Json) (next : String × Json)
    (later : List (String × Json)) :
    writeMembers ((name, value) :: next :: later) =
      quoted name ++ ":" ++ value.write ++ "," ++ writeMembers (next :: later) := by
  rw [writeMembers]
  exact List.cons_ne_nil next later

/-- The items that are still to come and the end of their array. -/
theorem build_items (items : List Json) (each : ∀ item ∈ items, Written item.write.toList item)
    (nonempty : items ≠ []) (stack : List Frame) (done : List Json) (expect : Expect)
    (rest : List Char) (takes : expect.TakesValue) :
    build (.array done :: stack) expect
        (Mode.between.scan ((writeItems items).toList ++ ']' :: rest)) =
      build stack (.after (.array (done.reverse ++ items))) (Mode.between.scan rest) := by
  induction items generalizing done expect with
  | nil => exact absurd rfl nonempty
  | cons item items ih =>
      have first := each item List.mem_cons_self
      cases items with
      | nil =>
          have closed : Mode.between.step ']' = ([.closeArray], .between) := rfl
          rw [writeItems, first _ _ _ takes (stops_cons (.inr (.inl rfl)) rest),
            scan_cons rest closed, List.singleton_append, build]
          simp
      | cons next later =>
          have comma : Mode.between.step ',' = ([.comma], .between) := rfl
          rw [writeItems_cons, String.toList_append, String.toList_append, List.append_assoc,
            List.append_assoc]
          change build _ _ (Mode.between.scan (item.write.toList ++ ',' ::
            ((writeItems (next :: later)).toList ++ ']' :: rest))) = _
          rw [first _ _ _ takes (stops_cons (.inl rfl) _), scan_cons _ comma, List.singleton_append,
            build, ih (fun other member => each other (List.mem_cons_of_mem item member)) (by simp)
              (item :: done) .value (.inl rfl)]
          simp

/-- The members that are still to come and the end of their object. -/
theorem build_members (members : List (String × Json))
    (each : ∀ member ∈ members, Written member.2.write.toList member.2)
    (nonempty : members ≠ []) (stack : List Frame) (done : List (String × Json)) (expect : Expect)
    (rest : List Char) (named : expect = .nameOrEnd done ∨ expect = .name done) :
    build stack expect (Mode.between.scan ((writeMembers members).toList ++ '\x7d' :: rest)) =
      build stack (.after (.object (done.reverse ++ members))) (Mode.between.scan rest) := by
  have colon : Mode.between.step ':' = ([.colon], .between) := rfl
  induction members generalizing done expect with
  | nil => exact absurd rfl nonempty
  | cons member members ih =>
      obtain ⟨name, value⟩ := member
      have first := each (name, value) List.mem_cons_self
      have entered : ∀ more, build stack expect
          (Mode.between.scan ((quoted name).toList ++ ':' :: more)) =
            build (.object done name :: stack) .value (Mode.between.scan more) := by
        intro more
        rw [scan_quoted, scan_cons more colon]
        rcases named with rfl | rfl <;> rfl
      cases members with
      | nil =>
          have closed : Mode.between.step '\x7d' = ([.closeObject], .between) := rfl
          rw [writeMembers, String.toList_append, String.toList_append, List.append_assoc,
            List.append_assoc]
          change build _ _ (Mode.between.scan ((quoted name).toList ++ ':' ::
            (value.write.toList ++ '\x7d' :: rest))) = _
          rw [entered, first _ _ _ (.inl rfl) (stops_cons (.inr (.inr rfl)) rest),
            scan_cons rest closed, List.singleton_append, build]
          simp
      | cons next later =>
          have comma : Mode.between.step ',' = ([.comma], .between) := rfl
          rw [writeMembers_cons]
          simp only [String.toList_append, List.append_assoc]
          change build _ _ (Mode.between.scan ((quoted name).toList ++ ':' ::
            (value.write.toList ++ ',' :: ((writeMembers (next :: later)).toList ++
              '\x7d' :: rest)))) = _
          rw [entered, first _ _ _ (.inl rfl) (stops_cons (.inl rfl) _), scan_cons _ comma,
            List.singleton_append, build,
            ih (fun other member => each other (List.mem_cons_of_mem _ member)) (by simp)
              ((name, value) :: done) _ (.inr rfl)]
          simp

/-! ## Documents -/

theorem written_array (items : List Json) (each : ∀ item ∈ items, Written item.write.toList item) :
    Written (write (.array items)).toList (.array items) := by
  intro stack expect rest takes stops
  have opened : Mode.between.step '[' = ([.openArray], .between) := rfl
  have entered : ∀ more, build stack expect (Mode.between.scan ('[' :: more)) =
      build (.array [] :: stack) .itemOrEnd (Mode.between.scan more) := by
    intro more
    rw [scan_cons more opened]
    rcases takes with rfl | rfl <;> rfl
  rw [write]
  simp only [String.toList_append, List.append_assoc]
  change build _ _ (Mode.between.scan ('[' :: ((writeItems items).toList ++ ']' :: rest))) = _
  rw [entered]
  by_cases empty : items = []
  · subst empty
    have closed : Mode.between.step ']' = ([.closeArray], .between) := rfl
    change build _ _ (Mode.between.scan (']' :: rest)) = _
    rw [scan_cons rest closed]
    rfl
  · rw [build_items items each empty stack [] .itemOrEnd rest (.inr rfl)]
    rfl

theorem written_object (members : List (String × Json))
    (each : ∀ member ∈ members, Written member.2.write.toList member.2) :
    Written (write (.object members)).toList (.object members) := by
  intro stack expect rest takes stops
  have opened : Mode.between.step '\x7b' = ([.openObject], .between) := rfl
  have entered : ∀ more, build stack expect (Mode.between.scan ('\x7b' :: more)) =
      build stack (.nameOrEnd []) (Mode.between.scan more) := by
    intro more
    rw [scan_cons more opened]
    rcases takes with rfl | rfl <;> rfl
  rw [write]
  simp only [String.toList_append, List.append_assoc]
  change build _ _ (Mode.between.scan ('\x7b' :: ((writeMembers members).toList ++
    '\x7d' :: rest))) = _
  rw [entered]
  by_cases empty : members = []
  · subst empty
    have closed : Mode.between.step '\x7d' = ([.closeObject], .between) := rfl
    change build _ _ (Mode.between.scan ('\x7d' :: rest)) = _
    rw [scan_cons rest closed]
    rfl
  · rw [build_members members each empty stack [] (.nameOrEnd []) rest (.inl rfl)]
    rfl

theorem Legible.written {doc : Json} (legible : doc.Legible) : Written doc.write.toList doc := by
  induction legible with
  | null => exact written_scalar fun rest _ => rfl
  | bool value => cases value <;> exact written_scalar fun rest _ => rfl
  | integer value small => exact written_scalar (scan_integer small)
  | string value => exact written_string value
  | array items _ ih => exact written_array items ih
  | object members _ ih => exact written_object members ih

theorem read_write {doc : Json} (legible : doc.Legible) : read doc.write = ⟨doc, false⟩ := by
  have whole := legible.written [] .value [] (.inl rfl) (.inl rfl)
  rw [List.append_nil] at whole
  exact whole

theorem readWhole_write {doc : Json} (legible : doc.Legible) : readWhole doc.write = doc := by
  rw [readWhole, read_write legible]
  rfl

end NetAudio.Json
