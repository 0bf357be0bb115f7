import NetAudio.Text.Parts

/-!
# Parts between separators

A separator between two lists is a place where the whole is cut, and the parts joined again are the list.
-/

set_option autoImplicit false

namespace NetAudio.Text
variable {separator : Char}

theorem split_ne_nil (chars : List Char) : split separator chars ≠ [] := by
  cases chars with
  | nil => nofun
  | cons c rest =>
      rw [split]
      split
      · nofun
      · split <;> nofun

theorem split_eq_splitOn (chars : List Char) : split separator chars = chars.splitOn separator := by
  rw [List.splitOn_eq_splitOnP]
  induction chars with
  | nil => rfl
  | cons c rest ih =>
      rw [split, List.splitOnP_cons_eq_if_modifyHead, ← ih]
      by_cases here : c = separator
      · simp [here]
      · simp only [here, if_false, beq_iff_eq]
        obtain ⟨part, parts, listed⟩ := List.exists_cons_of_ne_nil (split_ne_nil rest)
        rw [listed]
        rfl

theorem split_append_cons (front back : List Char) :
    split separator (front ++ separator :: back) =
      split separator front ++ split separator back := by
  simp only [split_eq_splitOn, List.splitOn_eq_splitOnP]
  exact List.splitOnP_append_cons front back (beq_self_eq_true separator)

theorem split_of_not_mem {chars : List Char} (absent : separator ∉ chars) :
    split separator chars = [chars] := by
  have alone : ∀ part ∈ [chars], separator ∉ part := by simpa using absent
  have joined := List.splitOn_intercalate separator alone (by simp)
  rw [List.intercalate_singleton] at joined
  rw [split_eq_splitOn, joined]

/-- A part behind a separator is the last one. -/
theorem split_concat {part : List Char} (absent : separator ∉ part) (front : List Char) :
    split separator (front ++ separator :: part) = split separator front ++ [part] := by
  rw [split_append_cons, split_of_not_mem absent]

theorem intercalate_split (chars : List Char) :
    [separator].intercalate (split separator chars) = chars := by
  rw [split_eq_splitOn, List.intercalate_splitOn]

theorem mem_of_mem_split {chars part : List Char} (member : part ∈ split separator chars) {c : Char}
    (within : c ∈ part) : c ∈ chars := by
  induction chars generalizing part with
  | nil =>
      obtain rfl := List.mem_singleton.mp member
      exact within
  | cons d rest ih =>
      rw [split] at member
      split at member
      · rcases List.mem_cons.mp member with rfl | later
        · cases within
        · exact List.mem_cons_of_mem d (ih later within)
      · obtain ⟨head, parts, listed⟩ : ∃ head parts, split separator rest = head :: parts :=
          List.exists_cons_of_ne_nil (split_ne_nil rest)
        simp only [listed] at member ih
        rcases List.mem_cons.mp member with rfl | later
        · rcases List.mem_cons.mp within with rfl | deeper
          · exact List.mem_cons_self
          · exact List.mem_cons_of_mem d (ih List.mem_cons_self deeper)
        · exact List.mem_cons_of_mem d (ih (List.mem_cons_of_mem head later) within)

theorem intercalate_append (before : List (List Char)) {parts : List (List Char)} (some : parts ≠ []) :
    [separator].intercalate (before ++ parts) =
      [separator].intercalate (before ++ [[]]) ++ [separator].intercalate parts := by
  induction before with
  | nil => simp
  | cons part before ih =>
      obtain ⟨next, rest, listed⟩ : ∃ next rest, before ++ parts = next :: rest :=
        List.exists_cons_of_ne_nil (by simp [some])
      obtain ⟨other, later, ended⟩ : ∃ other later, before ++ [[]] = other :: later :=
        List.exists_cons_of_ne_nil (by simp)
      rw [List.cons_append, List.cons_append, listed, ended, List.intercalate_cons_cons,
        List.intercalate_cons_cons, ← listed, ← ended, ih]
      simp

/-! ## The first separator -/

theorem cutFirst?_cons (separator c : Char) (rest : List Char) :
    cutFirst? separator (c :: rest) =
      if c = separator then some ([], rest)
      else (cutFirst? separator rest).map fun (before, after) => (c :: before, after) := by
  by_cases here : c = separator
  · simp [cutFirst?, here]
  · simp only [cutFirst?, here, List.dropWhile_cons, List.takeWhile_cons, ne_eq, not_false_eq_true,
      decide_true, if_true, if_false]
    split <;> rfl

theorem cutFirst?_eq_some_iff (separator : Char) (chars before after : List Char) :
    cutFirst? separator chars = some (before, after) ↔
      separator ∉ before ∧ chars = before ++ separator :: after := by
  induction chars generalizing before with
  | nil => simp [cutFirst?]
  | cons c rest ih =>
      rw [cutFirst?_cons]
      by_cases here : c = separator
      · subst here
        cases before with
        | nil => simp
        | cons d before =>
            simp only [if_true, Option.some.injEq, Prod.mk.injEq, reduceCtorEq, false_and, false_iff]
            rintro ⟨absent, same⟩
            cases same
            exact absent List.mem_cons_self
      · rw [if_neg here]
        cases before with
        | nil => simp [here]
        | cons d before =>
            rw [Option.map_eq_some_iff]
            constructor
            · rintro ⟨⟨front, back⟩, cut, same⟩
              cases same
              obtain ⟨absent, rfl⟩ := (ih before).mp cut
              exact ⟨by simp [absent, Ne.symm here], rfl⟩
            · rintro ⟨absent, same⟩
              cases same
              simp only [List.mem_cons, not_or] at absent
              exact ⟨(before, after), (ih before).mpr ⟨absent.2, rfl⟩, rfl⟩

/-- A text goes on behind its first separator, if what follows has none. -/
theorem cutFirst?_append_of_not_mem {separator : Char} {back : List Char} (absent : separator ∉ back)
    (front : List Char) :
    cutFirst? separator (front ++ back) =
      (cutFirst? separator front).map fun (before, after) => (before, after ++ back) := by
  induction front with
  | nil =>
      cases cut : cutFirst? separator back with
      | none => exact cut
      | some parts =>
          obtain ⟨before, after⟩ := parts
          obtain ⟨-, rfl⟩ := (cutFirst?_eq_some_iff _ _ _ _).mp cut
          exact absurd (List.mem_append_right before List.mem_cons_self) absent
  | cons c front ih =>
      rw [List.cons_append, cutFirst?_cons, cutFirst?_cons, ih]
      by_cases here : c = separator
      · simp [here]
      · simp only [here, if_false, Option.map_map]
        rfl

theorem cutFirst?_append {separator : Char} {front before after : List Char}
    (cut : cutFirst? separator front = some (before, after)) (back : List Char) :
    cutFirst? separator (front ++ back) = some (before, after ++ back) := by
  obtain ⟨absent, rfl⟩ := (cutFirst?_eq_some_iff _ _ _ _).mp cut
  apply (cutFirst?_eq_some_iff _ _ _ _).mpr
  exact ⟨absent, by simp⟩

/-! ## The last separator -/

theorem cutLast?_eq_some_iff (separator : Char) (chars before after : List Char) :
    cutLast? separator chars = some (before, after) ↔
      separator ∉ after ∧ chars = before ++ separator :: after := by
  rw [cutLast?, Option.map_eq_some_iff]
  constructor
  · rintro ⟨⟨back, front⟩, cut, same⟩
    obtain ⟨absent, turned⟩ := (cutFirst?_eq_some_iff _ _ _ _).mp cut
    cases same
    refine ⟨by simpa using absent, ?_⟩
    rw [← List.reverse_reverse chars, turned]
    simp
  · rintro ⟨absent, rfl⟩
    refine ⟨(after.reverse, before.reverse), ?_, by simp⟩
    apply (cutFirst?_eq_some_iff _ _ _ _).mpr
    simpa using absent

end NetAudio.Text
