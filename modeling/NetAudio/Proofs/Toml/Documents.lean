import NetAudio.Proofs.Lookup
import NetAudio.Proofs.Toml.Lines

/-!
# Reading documents back

A list of sections with different names, each with different keys, is read back as the table of its
tables: every header adds an empty table at the end, and every entry goes to the table that was added
last.
-/

set_option autoImplicit false

namespace NetAudio.Toml

/-! ## Members -/

namespace Members
variable {name : String} {front : Members} (fresh : name ∉ front.map (·.1))

include fresh

theorem lookup_concat (node : Node) : (front ++ [(name, node)]).lookup name = some node := by
  rw [List.lookup_append, lookup_eq_none_iff.mpr fresh, Option.none_or, List.lookup_cons_self]

theorem put_of_fresh (node : Node) : put name node front = front ++ [(name, node)] := by
  induction front with
  | nil => rfl
  | cons member rest ih =>
      obtain ⟨other, kept⟩ := member
      rw [List.map_cons, List.mem_cons, not_or] at fresh
      rw [put, if_neg (Ne.symm fresh.1), ih fresh.2, List.cons_append]

theorem put_concat (node old : Node) :
    put name node (front ++ [(name, old)]) = front ++ [(name, node)] := by
  induction front with
  | nil => exact if_pos rfl
  | cons member rest ih =>
      obtain ⟨other, kept⟩ := member
      rw [List.map_cons, List.mem_cons, not_or] at fresh
      rw [List.cons_append, put, if_neg (Ne.symm fresh.1), ih fresh.2, List.cons_append]

end Members

/-! ## Tables -/

def Section.members (part : Section) : List (String × Toml) :=
  part.entries.map fun (name, value) => (name, .scalar value)

def ofSections (sections : List Section) : Toml :=
  .table (sections.map fun part => (part.name, .table part.members))

def entryNodes (entries : List (String × Scalar)) : Members :=
  entries.map fun (name, value) => (name, .value (.scalar value))

def sectionNodes (sections : List Section) : Members :=
  sections.map fun part => (part.name, .table .headed (entryNodes part.entries))

theorem names_entryNodes (entries : List (String × Scalar)) :
    (entryNodes entries).map (·.1) = entries.map (·.1) := by
  rw [entryNodes, List.map_map]
  rfl

theorem names_sectionNodes (sections : List Section) :
    (sectionNodes sections).map (·.1) = sections.map (·.name) := by
  rw [sectionNodes, List.map_map]
  rfl

theorem membersToToml_entryNodes (entries : List (String × Scalar)) :
    membersToToml (entryNodes entries) =
      entries.map fun (name, value) => (name, .scalar value) := by
  induction entries with
  | nil => rfl
  | cons entry entries ih =>
      rw [List.map_cons, ← ih]
      rfl

theorem membersToToml_sectionNodes (sections : List Section) :
    membersToToml (sectionNodes sections) =
      sections.map fun part => (part.name, .table part.members) := by
  induction sections with
  | nil => rfl
  | cons part sections ih =>
      rw [List.map_cons, ← ih, Section.members, ← membersToToml_entryNodes]
      rfl

/-! ## Building -/

namespace Builder
variable {name : String} {front : Members} (fresh : name ∉ front.map (·.1))

include fresh

theorem add_header (current : List String) :
    add { root := front, current } (.header [name]) =
      some { root := front ++ [(name, .table .headed [])], current := [name] } := by
  have opened : Members.openTable name front = some (front ++ [(name, .table .headed [])]) := by
    rw [Members.openTable, lookup_eq_none_iff.mpr fresh]
    exact congrArg some (Members.put_of_fresh fresh _)
  simp [add, Members.within, opened]

theorem add_entry {inner : Members} {key : String} (unused : key ∉ inner.map (·.1)) (value : Toml) :
    add { root := front ++ [(name, .table .headed inner)], current := [name] } (.entry [key] value) =
      some { root := front ++ [(name, .table .headed (inner ++ [(key, .value value)]))],
             current := [name] } := by
  have entered : Members.addEntry [key] value .headed inner =
      some (inner ++ [(key, .value value)]) := by
    simp [Members.addEntry, Members.within, lookup_eq_none_iff.mpr unused,
      Members.put_of_fresh unused]
  simp [add, Members.within, Members.lookup_concat fresh, Members.put_concat fresh, entered]

theorem add_entries (entries done : List (String × Scalar))
    (distinct : ((done ++ entries).map (·.1)).Nodup) :
    (entries.map fun (key, value) => Statement.entry [key] (.scalar value)).foldlM add
        { root := front ++ [(name, .table .headed (entryNodes done))], current := [name] } =
      some { root := front ++ [(name, .table .headed (entryNodes (done ++ entries)))],
             current := [name] } := by
  induction entries generalizing done with
  | nil => simp
  | cons entry entries ih =>
      obtain ⟨key, value⟩ := entry
      have unused : key ∉ (entryNodes done).map (·.1) := by
        rw [names_entryNodes]
        rw [List.map_append, List.map_cons, List.nodup_append] at distinct
        exact fun held => distinct.2.2 key held key List.mem_cons_self rfl
      have grown : entryNodes done ++ [(key, .value (.scalar value))] =
          entryNodes (done ++ [(key, value)]) := by
        simp [entryNodes]
      have rest : done ++ (key, value) :: entries = done ++ [(key, value)] ++ entries := by
        simp
      rw [rest] at distinct ⊢
      rw [List.map_cons, List.foldlM_cons, add_entry fresh unused, grown]
      exact ih _ distinct

end Builder

theorem Builder.add_section {front : Members} {part : Section} (fresh : part.name ∉ front.map (·.1))
    (distinct : (part.entries.map (·.1)).Nodup) (current : List String) :
    part.statements.foldlM add { root := front, current } =
      some { root := front ++ sectionNodes [part], current := [part.name] } := by
  rw [Section.statements, List.foldlM_cons, add_header fresh]
  exact add_entries fresh part.entries [] distinct

theorem Builder.add_sections (sections done : List Section) (current : List String)
    (names : ((done ++ sections).map (·.name)).Nodup)
    (keys : ∀ part ∈ sections, (part.entries.map (·.1)).Nodup) :
    ∃ builder, (sections.flatMap Section.statements).foldlM add
        { root := sectionNodes done, current } = some builder ∧
      builder.root = sectionNodes (done ++ sections) := by
  induction sections generalizing done current with
  | nil => exact ⟨_, rfl, by rw [List.append_nil]⟩
  | cons part sections ih =>
      rw [List.forall_mem_cons] at keys
      have fresh : part.name ∉ (sectionNodes done).map (·.1) := by
        rw [names_sectionNodes]
        rw [List.map_append, List.map_cons, List.nodup_append] at names
        exact fun held => names.2.2 _ held _ List.mem_cons_self rfl
      have grown : sectionNodes done ++ sectionNodes [part] = sectionNodes (done ++ [part]) := by
        simp [sectionNodes]
      have rest : done ++ part :: sections = done ++ [part] ++ sections := by simp
      rw [rest] at names ⊢
      rw [List.flatMap_cons, List.foldlM_append, add_section fresh keys.1, grown]
      exact ih _ _ names keys.2

section Documents

variable {sections : List Section} (legible : ∀ part ∈ sections, part.Legible)
  (names : (sections.map (·.name)).Nodup)
  (keys : ∀ part ∈ sections, (part.entries.map (·.1)).Nodup)

include names keys

theorem ofStatements?_sections :
    ofStatements? (sections.flatMap Section.statements) = some (ofSections sections) := by
  obtain ⟨builder, built, root⟩ := Builder.add_sections sections [] [] names keys
  have begun : sectionNodes [] = [] := rfl
  rw [begun] at built
  rw [ofStatements?, built, Option.bind_eq_bind, Option.bind_some, root, List.nil_append,
    membersToToml_sectionNodes]
  rfl

include legible

/-- Sections are read back from the document that they are written as. -/
theorem read?_write : read? (write sections) = some (ofSections sections) := by
  have reads := reads_write legible _ (Nat.lt_succ_self _)
  have unmarked : ∀ rest,
      List.intercalate ['\n'] (sections.map Section.write) ≠ '\uFEFF' :: rest := by
    intro rest begun
    cases sections with
    | nil => cases begun
    | cons part others =>
        cases others <;>
          simp [Section.write, List.intercalate_cons_cons] at begun
  rw [read?, write, String.toList_ofList]
  split
  · next rest begun => exact absurd begun (unmarked rest)
  · rw [reads, Option.bind_eq_bind, Option.bind_some, ofStatements?_sections names keys]

end Documents

end NetAudio.Toml
