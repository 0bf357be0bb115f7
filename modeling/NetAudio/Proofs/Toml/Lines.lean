import Mathlib.Tactic.ByContra
import NetAudio.Proofs.Toml.Quoted
import NetAudio.Proofs.Toml.Words
import NetAudio.Toml.Reader

/-!
# Reading lines back

Headers and entries are read back from the lines that they are written as, and so is a whole list of
sections.  `Reads` says what a text is read as, however much fuel there is to spare.
-/

set_option autoImplicit false

namespace NetAudio.Toml

/-! ## Values -/

inductive Scalar.Legible : Scalar → Prop where
  | string (text : String) : Legible (.string text)
  | integer (value : Int) (holds : holdsInteger value = true) : Legible (.integer value)
  | boolean (value : Bool) : Legible (.boolean value)

theorem quoted_begins (chars : List Char) :
    ∃ c more, quoted chars = c :: more ∧ (c = '"' ∨ c = '\x27') := by
  rw [quoted]
  split
  · exact ⟨_, _, rfl, .inl rfl⟩
  · exact ⟨_, _, rfl, .inr rfl⟩
  · exact ⟨_, _, rfl, .inl rfl⟩
  · exact ⟨_, _, rfl, .inr rfl⟩

section Values
variable (fuel depth : Nat) (rest : List Char)

theorem value?_word {word : List Char} {value : Scalar} (some : word ≠ [])
    (letters : ∀ c ∈ word, isWordChar c = true) (read : ofWord? word = .some value) :
    value? (fuel + 1) depth (word ++ '\n' :: rest) = .some (.scalar value, '\n' :: rest) := by
  obtain ⟨c, more, rfl⟩ := List.exists_cons_of_ne_nil some
  have cut := cutWord_line letters rest
  have other (mark : Char) (foreign : isWordChar mark = false) : c ≠ mark := by
    rintro rfl
    rw [letters c List.mem_cons_self] at foreign
    cases foreign
  rw [List.cons_append] at cut ⊢
  rw [value?]
  · simp [other '"' rfl, other '\x27' rfl, cut, read]
  · rintro _ ⟨⟩
    exact other '[' rfl rfl
  · rintro _ ⟨⟩
    exact other '\x7b' rfl rfl

theorem value?_quoted (text : String) :
    value? (fuel + 1) depth (quoted text.toList ++ '\n' :: rest) =
      some (.scalar (.string text), '\n' :: rest) := by
  have read : string? (quoted text.toList ++ '\n' :: rest) = some (text.toList, '\n' :: rest) :=
    string?_quoted text.toList nofun nofun
  obtain ⟨c, more, written, quote⟩ := quoted_begins text.toList
  rw [written, List.cons_append] at read ⊢
  rw [value?]
  · rcases quote with rfl | rfl <;> simp [read]
  · rintro _ ⟨⟩
    simp at quote
  · rintro _ ⟨⟩
    simp at quote

theorem toString_ne_nil (value : Int) : (toString value).toList ≠ [] := by
  obtain ⟨negative, n, -, -, written⟩ := exists_sign value
  rw [written]
  exact List.append_ne_nil_of_right_ne_nil _ Nat.toDigits_ne_nil

theorem value?_write {value : Scalar} (legible : value.Legible) :
    value? (fuel + 1) depth (value.write ++ '\n' :: rest) =
      some (.scalar value, '\n' :: rest) := by
  cases legible with
  | string text => exact value?_quoted fuel depth rest text
  | integer value holds =>
      exact value?_word fuel depth rest (toString_ne_nil value) (isWordChar_toString value)
        (ofWord?_integer holds)
  | boolean value =>
      cases value with
      | true => exact value?_word fuel depth rest nofun (List.all_eq_true.mp rfl) rfl
      | false => exact value?_word fuel depth rest nofun (List.all_eq_true.mp rfl) rfl

end Values

/-! ## Names -/

structure Bare (name : String) : Prop where
  some : name.toList ≠ []
  letters : ∀ c ∈ name.toList, isBare c = true

instance (name : String) : Decidable (Bare name) :=
  decidable_of_iff (name.toList ≠ [] ∧ name.toList.all isBare = true)
    ⟨fun both => ⟨both.1, List.all_eq_true.mp both.2⟩,
      fun bare => ⟨bare.some, List.all_eq_true.mpr bare.letters⟩⟩

theorem skipBlanks_cons {c : Char} (visible : isBlank c = false) (rest : List Char) :
    skipBlanks (c :: rest) = c :: rest := by
  rw [skipBlanks, List.dropWhile_cons_of_neg (by simp [visible])]

/-- No value begins with a blank. -/
theorem skipBlanks_write {value : Scalar} (legible : value.Legible) (rest : List Char) :
    skipBlanks (' ' :: (value.write ++ rest)) = value.write ++ rest := by
  have begun : ∃ c more, value.write = c :: more ∧ isBlank c = false := by
    cases legible with
    | string text =>
        obtain ⟨c, more, written, quote⟩ := quoted_begins text.toList
        refine ⟨c, more, written, ?_⟩
        rcases quote with rfl | rfl <;> rfl
    | integer value holds =>
        obtain ⟨c, more, written⟩ := List.exists_cons_of_ne_nil (toString_ne_nil value)
        have letter := isWordChar_toString value c (written ▸ List.mem_cons_self)
        refine ⟨c, more, written, ?_⟩
        by_contra blank
        simp only [isBlank, Bool.not_eq_false, Bool.or_eq_true, decide_eq_true_eq] at blank
        rcases blank with rfl | rfl <;> cases letter
    | boolean value => cases value <;> exact ⟨_, _, rfl, rfl⟩
  obtain ⟨c, more, written, visible⟩ := begun
  have skipped : skipBlanks (' ' :: (value.write ++ rest)) = skipBlanks (value.write ++ rest) :=
    List.dropWhile_cons_of_pos rfl
  rw [skipped, written, List.cons_append, skipBlanks_cons visible]

section Names
variable {name : String} (bare : Bare name)

include bare

/-- A bare name begins with none of the marks that mean something else. -/
theorem Bare.begins : ∃ c more, name.toList = c :: more ∧ isBlank c = false ∧
    ∀ mark, isBare mark = false → c ≠ mark := by
  obtain ⟨c, more, written⟩ := List.exists_cons_of_ne_nil bare.some
  have letter : isBare c = true := bare.letters c (written ▸ List.mem_cons_self)
  have other (mark : Char) (foreign : isBare mark = false) : c ≠ mark := by
    rintro rfl
    rw [letter] at foreign
    cases foreign
  refine ⟨c, more, written, ?_, other⟩
  simp [isBlank, other ' ' rfl, other '\t' rfl]

theorem name?_bare {next : Char} (ends : isBare next = false) (rest : List Char) :
    name? (name.toList ++ next :: rest) = some (name, next :: rest) := by
  obtain ⟨c, more, written, -, other⟩ := bare.begins
  have taken : (name.toList ++ next :: rest).takeWhile isBare = name.toList := by
    rw [List.takeWhile_append_of_pos bare.letters, List.takeWhile_cons_of_neg (by simp [ends]),
      List.append_nil]
  have left : (name.toList ++ next :: rest).dropWhile isBare = next :: rest := by
    rw [List.dropWhile_append_of_pos bare.letters, List.dropWhile_cons_of_neg (by simp [ends])]
  unfold name?
  split
  · next begun =>
      rw [written, List.cons_append] at begun
      cases begun
      exact absurd rfl (other '"' rfl)
  · next begun =>
      rw [written, List.cons_append] at begun
      cases begun
      exact absurd rfl (other '\x27' rfl)
  · have whole : name.toList.isEmpty = false := by simpa using bare.some
    simp [taken, left, whole]

/-- A single name, with what stands behind it and the blanks there. -/
theorem path?_bare {next mark : Char} {rest more : List Char} (ends : isBare next = false)
    (follows : skipBlanks (next :: rest) = mark :: more) (undotted : mark ≠ '.') (limit : Nat) :
    path? (limit + 1) (name.toList ++ next :: rest) = some ([name], mark :: more) := by
  have read := name?_bare bare ends rest
  obtain ⟨c, others, written, visible, -⟩ := bare.begins
  have still : skipBlanks (name.toList ++ next :: rest) = name.toList ++ next :: rest := by
    rw [written, List.cons_append, skipBlanks_cons visible]
  simp [path?, still, read, follows, undotted]

end Names

/-! ## Statements -/

section Statements
variable {name : String} (bare : Bare name)

include bare

theorem statement?_header (rest : List Char) :
    statement? ('[' :: (name.toList ++ ']' :: rest)) = some (.header [name], rest) := by
  have path : path? nesting (name.toList ++ ']' :: rest) = some ([name], ']' :: rest) :=
    path?_bare bare rfl (skipBlanks_cons rfl rest) (by decide) 78
  obtain ⟨c, more, written, -, other⟩ := bare.begins
  rw [statement?]
  · simp [path]
  · intro others same
    rw [written, List.cons_append] at same
    cases same
    exact other '[' rfl rfl

theorem statement?_entry {value : Scalar} (legible : value.Legible) (rest : List Char) :
    statement? (writeEntry name value ++ rest) =
      some (.entry [name] (.scalar value), '\n' :: rest) := by
  have written : writeEntry name value ++ rest =
      name.toList ++ ' ' :: '=' :: ' ' :: (value.write ++ '\n' :: rest) := by
    simp [writeEntry]
  have path : path? nesting (name.toList ++ ' ' :: '=' :: ' ' :: (value.write ++ '\n' :: rest)) =
      some ([name], '=' :: ' ' :: (value.write ++ '\n' :: rest)) :=
    path?_bare bare rfl rfl (by decide) 78
  have skipped := skipBlanks_write legible ('\n' :: rest)
  rw [written]
  rw [statement?]
  · simp only [path, Option.bind_eq_bind, Option.bind_some, skipped, value?_write _ _ rest legible]
    rfl
  all_goals
    intro others same
    obtain ⟨c, more, begun, -, other⟩ := bare.begins
    rw [begun, List.cons_append] at same
    exact other '[' rfl (List.cons.inj same).1

end Statements

/-! ## Documents -/

/-- What a text is read as, with fuel enough for its characters. -/
def Reads (chars : List Char) (statements : List Statement) : Prop :=
  ∀ fuel, chars.length < fuel → statements? fuel chars = some statements

theorem reads_nil : Reads [] [] := by
  intro fuel room
  obtain ⟨fuel, rfl⟩ := Nat.exists_eq_add_one_of_ne_zero (Nat.ne_of_gt room)
  rfl

section Documents
variable {chars rest : List Char} {statements : List Statement} (reads : Reads rest statements)

include reads

theorem Reads.afterBreak : Reads ('\n' :: rest) statements := by
  intro fuel room
  obtain ⟨fuel, rfl⟩ := Nat.exists_eq_add_one_of_ne_zero (Nat.ne_of_gt (Nat.zero_lt_of_lt room))
  exact reads fuel (Nat.lt_of_succ_lt_succ room)

/-- A statement and the end of its line stand before what is read. -/
theorem Reads.after {c : Char} {more : List Char} {statement : Statement}
    (begins : isBlank c = false ∧ c ≠ '\n' ∧ c ≠ '\r' ∧ c ≠ '#')
    (read : statement? (c :: more) = some (statement, '\n' :: rest))
    (shorter : rest.length ≤ more.length) : Reads (c :: more) (statement :: statements) := by
  intro fuel room
  obtain ⟨fuel, rfl⟩ := Nat.exists_eq_add_one_of_ne_zero (Nat.ne_of_gt (Nat.zero_lt_of_lt room))
  obtain ⟨visible, inside, returned, uncommented⟩ := begins
  have later := reads fuel (Nat.lt_of_le_of_lt shorter (Nat.lt_of_succ_lt_succ room))
  have ended : afterLine? ('\n' :: rest) = some rest := rfl
  rw [statements?, skipBlanks_cons visible]
  simp [inside, returned, uncommented, read, ended, later]

theorem Reads.afterEntry {name : String} (bare : Bare name) {value : Scalar}
    (legible : value.Legible) :
    Reads (writeEntry name value ++ rest) (.entry [name] (.scalar value) :: statements) := by
  have read := statement?_entry bare legible rest
  obtain ⟨c, more, begun, visible, other⟩ := bare.begins
  have written : writeEntry name value ++ rest =
      c :: (more ++ (" = ".toList ++ value.write ++ '\n' :: rest)) := by
    simp [writeEntry, begun]
  rw [written] at read ⊢
  refine reads.after ⟨visible, other '\n' rfl, other '\r' rfl, other '#' rfl⟩ read ?_
  simp
  omega

theorem Reads.afterHeader {name : String} (bare : Bare name) :
    Reads ('[' :: (name.toList ++ ']' :: '\n' :: rest)) (.header [name] :: statements) := by
  refine reads.after ⟨rfl, by decide, by decide, by decide⟩
    (statement?_header bare ('\n' :: rest)) ?_
  simp
  omega

end Documents

def Section.statements (part : Section) : List Statement :=
  .header [part.name] :: part.entries.map fun (name, value) => .entry [name] (.scalar value)

structure Section.Legible (part : Section) : Prop where
  bare : Bare part.name
  entries : ∀ entry ∈ part.entries, Bare entry.1 ∧ entry.2.Legible

theorem reads_section {part : Section} (legible : part.Legible) {rest : List Char}
    {statements : List Statement} (reads : Reads rest statements) :
    Reads (part.write ++ rest) (part.statements ++ statements) := by
  have entries (entries : List (String × Scalar))
      (each : ∀ entry ∈ entries, Bare entry.1 ∧ entry.2.Legible) :
      Reads ((entries.flatMap fun (name, value) => writeEntry name value) ++ rest)
        ((entries.map fun (name, value) => .entry [name] (.scalar value)) ++ statements) := by
    induction entries with
    | nil => exact reads
    | cons entry entries ih =>
        rw [List.forall_mem_cons] at each
        obtain ⟨⟨bare, shown⟩, others⟩ := each
        rw [List.flatMap_cons, List.append_assoc]
        exact (ih others).afterEntry bare shown
  have headed := (entries part.entries legible.entries).afterHeader legible.bare
  simpa [Section.write, Section.statements] using headed

/-- Sections are read back with the empty lines between them. -/
theorem reads_write {sections : List Section} (legible : ∀ part ∈ sections, part.Legible) :
    Reads (List.intercalate ['\n'] (sections.map Section.write))
      (sections.flatMap Section.statements) := by
  induction sections with
  | nil => exact reads_nil
  | cons part sections ih =>
      rw [List.forall_mem_cons] at legible
      obtain ⟨shown, others⟩ := legible
      cases sections with
      | nil =>
          have alone := reads_section shown reads_nil
          simpa using alone
      | cons next sections =>
          have both := reads_section shown (ih others).afterBreak
          simpa [List.intercalate_cons_cons] using both

end NetAudio.Toml
