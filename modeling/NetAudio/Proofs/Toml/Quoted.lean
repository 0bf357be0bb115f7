import Mathlib.Tactic.Push
import NetAudio.Toml.Quoted
import NetAudio.Toml.Writer

/-!
# Reading strings back

A string is read back from the spelling that it is written in, up to its closing quotes, if no further
quote follows.  Over several lines a quote may stand next to the closing ones; what matters there is how
many quotes a text begins with (`Leads`).
-/

set_option autoImplicit false

namespace NetAudio.Toml

/-! ## Characters -/

theorem isPlain_of_shown {c : Char} (shown : needsEscape c = false) (inside : c ≠ '\n') :
    isPlain c = true := by
  by_cases tab : c = '\t'
  · simp [isPlain, tab]
  · simp only [needsEscape, Bool.or_eq_false_iff, Bool.and_eq_false_iff, bne_eq_false_iff_eq,
      decide_eq_false_iff_not, tab, inside, or_false] at shown
    simp only [isPlain, tab, decide_false, Bool.false_or, Bool.and_eq_true, decide_eq_true_eq]
    omega

theorem charOf?_hexDigits : ∀ n < 128,
    charOf? ['0', '0', Percent.hexDigit (n / 16), Percent.hexDigit (n % 16)] = some (Char.ofNat n) := by
  decide +kernel

inductive Spelt (c : Char) : List Char → Prop where
  | itself (plain : isPlain c = true) (unquoted : c ≠ '"') (unescaped : c ≠ '\\') : Spelt c [c]
  | letter (mark : Char) (stands : escaped? mark = some c) : Spelt c ['\\', mark]
  | number (h₁ h₂ h₃ h₄ : Char) (stands : charOf? [h₁, h₂, h₃, h₄] = some c) :
      Spelt c ['\\', 'u', h₁, h₂, h₃, h₄]

theorem spelt_escape {c : Char} (unquoted : c ≠ '"') (inside : c ≠ '\n') : Spelt c (escape c) := by
  unfold escape
  split
  · exact .letter 'b' rfl
  · exact .letter 't' rfl
  · exact .letter 'f' rfl
  · exact .letter 'r' rfl
  · exact .letter '\\' rfl
  · next unescaped =>
      split
      · next control =>
          have small : c.toNat < 128 := by
            simp only [needsEscape, Bool.or_eq_true, Bool.and_eq_true, decide_eq_true_eq] at control
            omega
          have stands := charOf?_hexDigits c.toNat small
          rw [Char.ofNat_toNat] at stands
          exact .number _ _ _ _ stands
      · next shown =>
          exact .itself (isPlain_of_shown (Bool.not_eq_true _ ▸ shown) inside) unquoted unescaped

/-- The mark of an escape is neither a number's nor a blank or a line break. -/
theorem ne_of_escaped? {mark c : Char} (stands : escaped? mark = some c) :
    mark ≠ 'u' ∧ mark ≠ 'U' ∧ mark ≠ ' ' ∧ mark ≠ '\t' ∧ mark ≠ '\n' ∧ mark ≠ '\r' := by
  refine ⟨?_, ?_, ?_, ?_, ?_, ?_⟩
  all_goals
    rintro rfl
    cases stands

/-! ## Strings on one line -/

theorem basic_spelt {c : Char} {spelling : List Char} (spelt : Spelt c spelling) (rest : List Char) :
    basic (spelling ++ rest) = (basic rest).cons c := by
  cases spelt with
  | itself plain unquoted unescaped => simp [basic, plain, unescaped]
  | letter mark stands =>
      obtain ⟨short, long, -⟩ := ne_of_escaped? stands
      simp [basic, short, long, stands]
  | number h₁ h₂ h₃ h₄ stands => simp [basic, stands]

theorem spelt_in_basicBody (c : Char) :
    Spelt c (if c = '"' then ['\\', '"'] else if c = '\n' then ['\\', 'n'] else escape c) := by
  by_cases quote : c = '"'
  · subst quote
    exact .letter '"' rfl
  · by_cases inside : c = '\n'
    · subst inside
      exact .letter 'n' rfl
    · rw [if_neg quote, if_neg inside]
      exact spelt_escape quote inside

theorem basic_basicBody (chars rest : List Char) :
    basic (basicBody chars ++ '"' :: rest) = some (chars, rest) := by
  induction chars with
  | nil => rfl
  | cons c chars ih =>
      rw [basicBody, List.flatMap_cons, List.append_assoc, basic_spelt (spelt_in_basicBody c)]
      exact congrArg (Cut.cons c) ih

theorem literal_append (chars rest : List Char)
    (plain : ∀ c ∈ chars, isPlain c = true ∧ c ≠ '\x27') :
    literal (chars ++ '\x27' :: rest) = some (chars, rest) := by
  induction chars with
  | nil => rfl
  | cons c chars ih =>
      rw [List.forall_mem_cons] at plain
      obtain ⟨⟨shown, unquoted⟩, others⟩ := plain
      rw [List.cons_append, literal, if_neg unquoted, if_pos shown, ih others]
      rfl

/-! ## Strings over several lines -/

def Leads (quote : Char) (count : Nat) (chars : List Char) : Prop :=
  ∃ rest, chars = List.replicate count quote ++ rest ∧ rest.head? ≠ some quote

theorem Leads.cons {quote : Char} {count : Nat} {chars : List Char} (leads : Leads quote count chars) :
    Leads quote (count + 1) (quote :: chars) := by
  obtain ⟨rest, rfl, other⟩ := leads
  exact ⟨rest, rfl, other⟩

theorem leads_zero {quote : Char} {chars : List Char} (other : chars.head? ≠ some quote) :
    Leads quote 0 chars :=
  ⟨chars, rfl, other⟩

/-- A quote before such a text belongs to the string: it does not make up three with those behind it,
or there are three without it. -/
def Stands (quote : Char) (chars : List Char) : Prop :=
  ∃ count, Leads quote count chars ∧ (count = 0 ∨ count = 1 ∨ count = 3 ∨ count = 4)

/-- A reader of strings over several lines, as far as quotes are concerned. -/
structure ReadsLines (quote : Char) (read : List Char → Cut) : Prop where
  closes : ∀ rest, rest.head? ≠ some quote →
    read (List.replicate 3 quote ++ rest) = some ([], rest)
  stands : ∀ chars, Stands quote chars → read (quote :: chars) = (read chars).cons quote

theorem literalLines_readsLines : ReadsLines '\x27' literalLines where
  closes := by
    intro rest other
    cases rest with
    | nil => rfl
    | cons c rest =>
        have unquoted : c ≠ '\x27' := by simpa using other
        simp [literalLines, unquoted]
  stands := by
    rintro _ ⟨count, ⟨rest, rfl, other⟩, counted⟩
    cases rest with
    | nil => rcases counted with rfl | rfl | rfl | rfl <;> rfl
    | cons c rest =>
        have unquoted : c ≠ '\x27' := by simpa using other
        have plain : isPlain '\x27' = true := rfl
        rcases counted with rfl | rfl | rfl | rfl <;> simp [literalLines, unquoted, plain, Cut.cons]

theorem basicLines_readsLines : ReadsLines '"' (basicLines .text) where
  closes := by
    intro rest other
    cases rest with
    | nil => rfl
    | cons c rest =>
        have unquoted : c ≠ '"' := by simpa using other
        simp [basicLines, unquoted]
  stands := by
    rintro _ ⟨count, ⟨rest, rfl, other⟩, counted⟩
    cases rest with
    | nil => rcases counted with rfl | rfl | rfl | rfl <;> rfl
    | cons c rest =>
        have unquoted : c ≠ '"' := by simpa using other
        have plain : isPlain '"' = true := rfl
        rcases counted with rfl | rfl | rfl | rfl <;> simp [basicLines, unquoted, plain, Cut.cons]

/-! ### Literal strings -/

theorem le_longestRun (quote : Char) (run : Nat) (chars : List Char) :
    run ≤ longestRun quote run chars := by
  induction chars generalizing run with
  | nil => exact Nat.le_refl run
  | cons c chars ih =>
      rw [longestRun]
      split
      · exact Nat.le_trans (Nat.le_succ run) (ih (run + 1))
      · exact Nat.le_max_left _ _

/-- Before the closing quotes, another one belongs to the string as long as no three stand together. -/
theorem stands_of_longestRun {quote : Char} {run : Nat} {chars rest : List Char}
    (few : longestRun quote (run + 1) chars ≤ 2) (other : rest.head? ≠ some quote) :
    Stands quote (chars ++ (List.replicate 3 quote ++ rest)) := by
  have closing : Leads quote 3 (List.replicate 3 quote ++ rest) := ⟨rest, rfl, other⟩
  cases chars with
  | nil => exact ⟨3, closing, by decide⟩
  | cons c chars =>
      by_cases same : c = quote
      · subst same
        rw [longestRun, if_pos rfl] at few
        cases chars with
        | nil => exact ⟨4, closing.cons, by decide⟩
        | cons d chars =>
            have different : d ≠ c := by
              rintro rfl
              rw [longestRun, if_pos rfl] at few
              have most := Nat.le_trans (le_longestRun d _ chars) few
              omega
            exact ⟨1, (leads_zero (by simpa using different)).cons, by decide⟩
      · exact ⟨0, leads_zero (by simpa using same), by decide⟩

theorem literalLines_append {run : Nat} {chars rest : List Char}
    (plain : ∀ c ∈ chars, needsEscape c = false) (few : longestRun '\x27' run chars ≤ 2)
    (other : rest.head? ≠ some '\x27') :
    literalLines (chars ++ (List.replicate 3 '\x27' ++ rest)) = some (chars, rest) := by
  induction chars generalizing run with
  | nil => exact literalLines_readsLines.closes rest other
  | cons c chars ih =>
      rw [List.forall_mem_cons] at plain
      obtain ⟨shown, others⟩ := plain
      rw [longestRun] at few
      by_cases quote : c = '\x27'
      · subst quote
        rw [if_pos rfl] at few
        rw [List.cons_append, literalLines_readsLines.stands _ (stands_of_longestRun few other),
          ih others few]
        rfl
      · rw [if_neg quote] at few
        have unreturned : c ≠ '\r' := by
          rintro rfl
          cases shown
        have visible : (isPlain c || decide (c = '\n')) = true := by
          by_cases inside : c = '\n'
          · simp [inside]
          · simp [isPlain_of_shown shown inside]
        have step (more : List Char) : literalLines (c :: more) = (literalLines more).cons c := by
          simp [literalLines, quote, unreturned, visible]
        rw [List.cons_append, step, ih others (Nat.le_trans (Nat.le_max_right _ _) few)]
        rfl

/-! ### Basic strings -/

theorem basicLines_spelt {c : Char} {spelling : List Char} (spelt : Spelt c spelling)
    (rest : List Char) : basicLines .text (spelling ++ rest) = (basicLines .text rest).cons c := by
  cases spelt with
  | itself plain unquoted unescaped =>
      have inside : c ≠ '\n' ∧ c ≠ '\r' := by
        constructor <;>
          rintro rfl <;>
          cases plain
      simp [basicLines, plain, unquoted, unescaped, inside]
  | letter mark stands =>
      obtain ⟨short, long, space, tab, inside, returned⟩ := ne_of_escaped? stands
      simp [basicLines, endsLine, isBlank, short, long, space, tab, returned, stands]
  | number h₁ h₂ h₃ h₄ stands => simp [basicLines, stands]

/-- No character's spelling begins with a quote or a line break. -/
theorem head?_of_spelt {c : Char} {spelling : List Char} (spelt : Spelt c spelling)
    (rest : List Char) :
    (spelling ++ rest).head? ≠ some '"' ∧ (spelling ++ rest).head? ≠ some '\n' ∧
      (spelling ++ rest).head? ≠ some '\r' := by
  cases spelt with
  | itself plain unquoted unescaped =>
      have inside : c ≠ '\n' ∧ c ≠ '\r' := by
        constructor <;>
          rintro rfl <;>
          cases plain
      simpa using ⟨unquoted, inside⟩
  | letter mark stands => exact ⟨nofun, nofun, nofun⟩
  | number h₁ h₂ h₃ h₄ stands => exact ⟨nofun, nofun, nofun⟩

/-- No quote comes next, unless the string goes on with one that needs no escape. -/
theorem leads_basicLinesBody {run : Nat} {c : Char} (escaped : c = '"' → run = 2)
    (chars rest : List Char) : Leads '"' 0 (basicLinesBody run (c :: chars) ++ rest) := by
  apply leads_zero
  rw [basicLinesBody]
  by_cases quote : c = '"'
  · simp [quote, escaped quote]
  · by_cases inside : c = '\n'
    · simp [inside]
    · rw [if_neg quote, if_neg inside, List.append_assoc]
      exact (head?_of_spelt (spelt_escape quote inside) _).1

theorem stands_basicLinesBody {run : Nat} (before : run = 1 ∨ run = 2) (chars : List Char)
    {rest : List Char} (other : rest.head? ≠ some '"') :
    Stands '"' (basicLinesBody run chars ++ (List.replicate 3 '"' ++ rest)) := by
  have closing : Leads '"' 3 (List.replicate 3 '"' ++ rest) := ⟨rest, rfl, other⟩
  cases chars with
  | nil => exact ⟨3, closing, by decide⟩
  | cons c chars =>
      by_cases escaped : c = '"' → run = 2
      · exact ⟨0, leads_basicLinesBody escaped chars _, by decide⟩
      · -- A second quote, which nothing or the escape of a third one follows.
        push Not at escaped
        obtain ⟨rfl, early⟩ := escaped
        obtain rfl := before.resolve_right early
        have body : basicLinesBody 1 ('"' :: chars) = '"' :: basicLinesBody 2 chars := rfl
        rw [body, List.cons_append]
        cases chars with
        | nil => exact ⟨4, closing.cons, by decide⟩
        | cons d chars =>
            exact ⟨1, (leads_basicLinesBody (fun _ => rfl) chars _).cons, by decide⟩

theorem basicLines_basicLinesBody {run : Nat} (few : run ≤ 2) (chars : List Char) {rest : List Char}
    (other : rest.head? ≠ some '"') :
    basicLines .text (basicLinesBody run chars ++ (List.replicate 3 '"' ++ rest)) =
      some (chars, rest) := by
  induction chars generalizing run with
  | nil => exact basicLines_readsLines.closes rest other
  | cons c chars ih =>
      rw [basicLinesBody]
      by_cases quote : c = '"'
      · subst quote
        by_cases third : run = 2
        · have escaped : Spelt '"' ['\\', '"'] := .letter '"' rfl
          rw [if_pos rfl, if_pos third]
          exact (basicLines_spelt escaped _).trans (congrArg (Cut.cons '"') (ih (Nat.zero_le 2)))
        · have next : run + 1 = 1 ∨ run + 1 = 2 := by omega
          rw [if_pos rfl, if_neg third, List.cons_append,
            basicLines_readsLines.stands _ (stands_basicLinesBody next chars other), ih (by omega)]
          rfl
      · rw [if_neg quote]
        by_cases inside : c = '\n'
        · subst inside
          have step (more : List Char) :
              basicLines .text ('\n' :: more) = (basicLines .text more).cons '\n' := by
            simp [basicLines]
          rw [if_pos rfl, List.cons_append, step, ih (Nat.zero_le 2)]
          rfl
        · rw [if_neg inside, List.append_assoc, basicLines_spelt (spelt_escape quote inside),
            ih (Nat.zero_le 2)]
          rfl

/-! ## All spellings -/

theorem skipBreak_leadingBreak {chars body : List Char}
    (begins : '\n' ∉ chars → body.head? ≠ some '\n' ∧ body.head? ≠ some '\r') :
    skipBreak (leadingBreak chars ++ body) = body := by
  rw [leadingBreak]
  by_cases broken : '\n' ∈ chars
  · rw [if_pos (by simpa using broken)]
    rfl
  · rw [if_neg (by simpa using broken), List.nil_append]
    obtain ⟨first, returned⟩ := begins broken
    cases body with
    | nil => rfl
    | cons c body =>
        have inside : c ≠ '\n' := by simpa using first
        have carriage : c ≠ '\r' := by simpa using returned
        simp [skipBreak, inside, carriage]

theorem begins_basicLinesBody {chars : List Char} (unbroken : '\n' ∉ chars) (rest : List Char) :
    let body := basicLinesBody 0 chars ++ (List.replicate 3 '"' ++ rest)
    body.head? ≠ some '\n' ∧ body.head? ≠ some '\r' := by
  cases chars with
  | nil => exact ⟨nofun, nofun⟩
  | cons c chars =>
      have inside : c ≠ '\n' := fun same => unbroken (same ▸ List.mem_cons_self)
      intro body
      by_cases quote : c = '"'
      · subst quote
        exact ⟨nofun, nofun⟩
      · have written : body =
            escape c ++ (basicLinesBody 0 chars ++ (List.replicate 3 '"' ++ rest)) := by
          simp [body, basicLinesBody, quote, inside]
        rw [written]
        exact (head?_of_spelt (spelt_escape quote inside) _).2

/-- Only strings that are shown as they are get a literal spelling. -/
theorem shows_of_literal {chars : List Char} {spelling : Spelling}
    (chosen : Spelling.of chars = spelling)
    (raw : spelling = .literal ∨ spelling = .literalLines) : spelling.shows chars = true := by
  rw [Spelling.of] at chosen
  split at chosen
  · next found =>
      subst chosen
      exact List.find?_some (p := fun spelling : Spelling => spelling.shows chars) found
  · split at chosen <;>
      subst chosen <;>
      rcases raw with other | other <;>
      cases other

/-- One quote, and at most one more next to it, opens a string on one line. -/
theorem string?_of_leads {count : Nat} {chars : List Char} (few : count ≤ 1) :
    (Leads '"' count chars → string? ('"' :: chars) = basic chars) ∧
      (Leads '\x27' count chars → string? ('\x27' :: chars) = literal chars) := by
  have counted : count = 0 ∨ count = 1 := by omega
  constructor <;>
    rintro ⟨rest, rfl, other⟩ <;>
    cases rest with
    | nil => rcases counted with rfl | rfl <;> rfl
    | cons c rest =>
        simp only [List.head?_cons, ne_eq, Option.some.injEq] at other
        rcases counted with rfl | rfl <;> simp [string?, other]

theorem leads_basicBody (chars : List Char) {rest : List Char} (other : rest.head? ≠ some '"') :
    ∃ count, count ≤ 1 ∧ Leads '"' count (basicBody chars ++ '"' :: rest) := by
  cases chars with
  | nil => exact ⟨1, Nat.le_refl 1, (leads_zero other).cons⟩
  | cons c chars =>
      refine ⟨0, Nat.zero_le 1, leads_zero ?_⟩
      rw [basicBody, List.flatMap_cons, List.append_assoc]
      exact (head?_of_spelt (spelt_in_basicBody c) _).1

theorem leads_literal {chars rest : List Char} (unmarked : '\x27' ∉ chars)
    (other : rest.head? ≠ some '\x27') :
    ∃ count, count ≤ 1 ∧ Leads '\x27' count (chars ++ '\x27' :: rest) := by
  cases chars with
  | nil => exact ⟨1, Nat.le_refl 1, (leads_zero other).cons⟩
  | cons c chars =>
      refine ⟨0, Nat.zero_le 1, leads_zero ?_⟩
      rintro ⟨⟩
      exact unmarked List.mem_cons_self

section Spellings

variable {chars rest : List Char}

theorem string?_basic (other : rest.head? ≠ some '"') :
    string? ('"' :: basicBody chars ++ ['"'] ++ rest) = some (chars, rest) := by
  obtain ⟨count, few, leads⟩ := leads_basicBody chars other
  have written : '"' :: basicBody chars ++ ['"'] ++ rest = '"' :: (basicBody chars ++ '"' :: rest) := by
    simp
  rw [written, (string?_of_leads few).1 leads, basic_basicBody]

theorem string?_literal (shown : Spelling.literal.shows chars = true)
    (other : rest.head? ≠ some '\x27') :
    string? ('\x27' :: chars ++ ['\x27'] ++ rest) = some (chars, rest) := by
  simp only [Spelling.shows, Bool.and_eq_true, Bool.not_eq_true', List.contains_eq_mem,
    decide_eq_false_iff_not, List.any_eq_false, Bool.not_eq_true] at shown
  obtain ⟨visible, unmarked, unbroken⟩ := shown
  obtain ⟨count, few, leads⟩ := leads_literal unmarked other
  have written : '\x27' :: chars ++ ['\x27'] ++ rest = '\x27' :: (chars ++ '\x27' :: rest) := by
    simp
  rw [written, (string?_of_leads few).2 leads]
  apply literal_append
  intro c member
  have inside : c ≠ '\n' := fun same => unbroken (same ▸ member)
  exact ⟨isPlain_of_shown (visible c member) inside, fun same => unmarked (same ▸ member)⟩

theorem string?_basicLines (other : rest.head? ≠ some '"') :
    string? (['"', '"', '"'] ++ leadingBreak chars ++ basicLinesBody 0 chars ++ ['"', '"', '"'] ++
      rest) = some (chars, rest) := by
  have opened : string? (['"', '"', '"'] ++ leadingBreak chars ++ basicLinesBody 0 chars ++
      ['"', '"', '"'] ++ rest) = basicLines .text (skipBreak (leadingBreak chars ++
        (basicLinesBody 0 chars ++ (List.replicate 3 '"' ++ rest)))) := by
    simp [string?, List.replicate]
  rw [opened, skipBreak_leadingBreak fun unbroken => begins_basicLinesBody unbroken rest]
  exact basicLines_basicLinesBody (Nat.zero_le 2) chars other

theorem string?_literalLines (shown : Spelling.literalLines.shows chars = true)
    (other : rest.head? ≠ some '\x27') :
    string? (['\x27', '\x27', '\x27'] ++ leadingBreak chars ++ chars ++ ['\x27', '\x27', '\x27'] ++
      rest) = some (chars, rest) := by
  simp only [Spelling.shows, Bool.and_eq_true, Bool.not_eq_true', decide_eq_true_eq,
    List.any_eq_false, Bool.not_eq_true] at shown
  obtain ⟨visible, few⟩ := shown
  have opened : string? (['\x27', '\x27', '\x27'] ++ leadingBreak chars ++ chars ++
      ['\x27', '\x27', '\x27'] ++ rest) = literalLines (skipBreak (leadingBreak chars ++
        (chars ++ (List.replicate 3 '\x27' ++ rest)))) := by
    simp [string?, List.replicate]
  have begins (unbroken : '\n' ∉ chars) :
      (chars ++ (List.replicate 3 '\x27' ++ rest)).head? ≠ some '\n' ∧
        (chars ++ (List.replicate 3 '\x27' ++ rest)).head? ≠ some '\r' := by
    cases chars with
    | nil => exact ⟨nofun, nofun⟩
    | cons c chars =>
        refine ⟨?_, ?_⟩
        · rintro ⟨⟩
          exact unbroken List.mem_cons_self
        · rintro ⟨⟩
          cases visible '\r' List.mem_cons_self
  rw [opened, skipBreak_leadingBreak begins]
  exact literalLines_append visible few other

end Spellings

/-- A string is read back from what it is written as, if no quote follows. -/
theorem string?_quoted (chars : List Char) {rest : List Char} (unquoted : rest.head? ≠ some '"')
    (unmarked : rest.head? ≠ some '\x27') : string? (quoted chars ++ rest) = some (chars, rest) := by
  rw [quoted]
  split
  · exact string?_basic unquoted
  · next chosen => exact string?_literal (shows_of_literal chosen (.inl rfl)) unmarked
  · exact string?_basicLines unquoted
  · next chosen => exact string?_literalLines (shows_of_literal chosen (.inr rfl)) unmarked

/-- A quote of the string may stand next to the closing ones. -/
example : quoted ['\n', '"'] = ['"', '"', '"', '\n', '\n', '"', '"', '"', '"'] ∧
    string? (quoted ['\n', '"']) = some (['\n', '"'], []) := by
  decide

end NetAudio.Toml
