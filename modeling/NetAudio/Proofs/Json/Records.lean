import NetAudio.Proofs.Json.Slots
import NetAudio.Proofs.Lookup

/-!
# Reading records

An object is read as a value exactly if every slot that it names holds and every other slot may be left
out and is blank (`readMembers_eq_ok_iff`), whatever the order of its members.  An array is read like
the object that gives its items the names of the slots (`readItems_eq`).  So a lawful record is read
back from what it is written as.
-/

set_option autoImplicit false

namespace NetAudio.Json

namespace Record
variable {ρ : Type} {form : Record ρ}

def knownNames (form : Record ρ) (members : List (String × Json)) : List String :=
  (members.map (·.1)).filter fun name => (form.slot? name).isSome

theorem knownNames_cons_of_none {name : String} (unknown : form.slot? name = none) (doc : Json)
    (rest : List (String × Json)) :
    form.knownNames ((name, doc) :: rest) = form.knownNames rest := by
  simp [knownNames, unknown]

theorem knownNames_cons_of_mem {slot : Slot ρ} (member : slot ∈ form.slots) (doc : Json)
    (rest : List (String × Json)) :
    form.knownNames ((slot.name, doc) :: rest) = slot.name :: form.knownNames rest := by
  simp [knownNames, isSome_slot? member]

/-- How an object, read into a record that holds the names in `given`, comes to stand for `value`:
each slot that is named holds, and each other one is left as it is. -/
structure ReadsInto (form : Record ρ) (given : List String) (record : ρ)
    (members : List (String × Json)) (value : ρ) : Prop where
  foreign : ∀ member ∈ members, form.slot? member.1 = none → member.2.intact = true
  once : (form.knownNames members).Nodup
  fresh : ∀ slot ∈ form.slots, slot.name ∈ given → members.lookup slot.name = none
  named : ∀ slot ∈ form.slots, ∀ doc, members.lookup slot.name = some doc → slot.Holds doc value
  unnamed : ∀ slot ∈ form.slots, members.lookup slot.name = none →
    (slot.optional = true ∨ slot.name ∈ given) ∧ slot.write value = slot.write record

abbrev Reads (form : Record ρ) : List (String × Json) → ρ → Prop := form.ReadsInto [] form.blank

theorem mem_knownNames_iff {slot : Slot ρ} (member : slot ∈ form.slots)
    (members : List (String × Json)) :
    slot.name ∈ form.knownNames members ↔ slot.name ∈ members.map (·.1) := by
  simp [knownNames, isSome_slot? member]

section Objects
variable {given : List String} {record value : ρ} {name : String} {doc : Json}
  {rest : List (String × Json)}

theorem readsInto_foreign (unknown : form.slot? name = none) :
    form.ReadsInto given record ((name, doc) :: rest) value ↔
      doc.intact = true ∧ form.ReadsInto given record rest value := by
  have others : ∀ slot ∈ form.slots, slot.name ≠ name := slot?_eq_none_iff.mp unknown
  have same : ∀ slot ∈ form.slots,
      ((name, doc) :: rest).lookup slot.name = rest.lookup slot.name :=
    fun slot member => lookup_cons_of_ne (others slot member) doc rest
  constructor
  · intro reads
    have once := reads.once
    rw [knownNames_cons_of_none unknown] at once
    exact ⟨reads.foreign _ List.mem_cons_self unknown,
      fun member among => reads.foreign member (List.mem_cons_of_mem _ among), once,
      fun slot member held => (same slot member).symm.trans (reads.fresh slot member held),
      fun slot member found given => reads.named slot member found ((same slot member).trans given),
      fun slot member missing => reads.unnamed slot member ((same slot member).trans missing)⟩
  · rintro ⟨whole, reads⟩
    refine ⟨?_, ?_, ?_, ?_, ?_⟩
    · intro member among missing
      rcases List.mem_cons.mp among with rfl | later
      · exact whole
      · exact reads.foreign member later missing
    · rw [knownNames_cons_of_none unknown]
      exact reads.once
    · exact fun slot member held => (same slot member).trans (reads.fresh slot member held)
    · exact fun slot member found given =>
        reads.named slot member found ((same slot member).symm.trans given)
    · exact fun slot member missing =>
        reads.unnamed slot member ((same slot member).symm.trans missing)

theorem readsInto_named (lawful : form.Lawful) {slot : Slot ρ} (member : slot ∈ form.slots) :
    form.ReadsInto given record ((slot.name, doc) :: rest) value ↔
      slot.name ∉ given ∧ ∃ next, slot.read doc record = .ok next ∧
        form.ReadsInto (slot.name :: given) next rest value := by
  have known : form.slot? slot.name ≠ none := slot?_ne_none member
  have self : ((slot.name, doc) :: rest).lookup slot.name = some doc := List.lookup_cons_self
  constructor
  · intro reads
    have unheld : slot.name ∉ given := by
      intro held
      have missing := reads.fresh slot member held
      rw [self] at missing
      cases missing
    have last : rest.lookup slot.name = none := by
      have once := reads.once
      rw [knownNames_cons_of_mem member, List.nodup_cons, mem_knownNames_iff member] at once
      exact lookup_eq_none_iff.mpr once.1
    obtain ⟨next, read, same⟩ :=
      (lawful.slots slot member).carries (reads.named slot member doc self) record
    refine ⟨unheld, next, read, ⟨?_, ?_, ?_, ?_, ?_⟩⟩
    · exact fun entry among => reads.foreign entry (List.mem_cons_of_mem _ among)
    · have once := reads.once
      rw [knownNames_cons_of_mem member, List.nodup_cons] at once
      exact once.2
    · intro other another held
      by_cases equal : other.name = slot.name
      · rw [equal, last]
      · rw [← lookup_cons_of_ne equal doc rest]
        exact reads.fresh other another ((List.mem_cons.mp held).resolve_left equal)
    · intro other another found given
      by_cases equal : other.name = slot.name
      · rw [equal, last] at given
        cases given
      · rw [← lookup_cons_of_ne equal doc rest] at given
        exact reads.named other another found given
    · intro other another missing
      by_cases equal : other.name = slot.name
      · rw [lawful.eq_of_name another member equal]
        exact ⟨.inr List.mem_cons_self, same.symm⟩
      · rw [← lookup_cons_of_ne equal doc rest] at missing
        obtain ⟨allowed, kept⟩ := reads.unnamed other another missing
        refine ⟨allowed.imp_right (List.mem_cons_of_mem _), ?_⟩
        rw [kept, lawful.keeps member another (Ne.symm equal) doc record next read]
  · rintro ⟨unheld, next, read, reads⟩
    have last := reads.fresh slot member List.mem_cons_self
    refine ⟨?_, ?_, ?_, ?_, ?_⟩
    · intro entry among missing
      rcases List.mem_cons.mp among with rfl | later
      · exact absurd missing known
      · exact reads.foreign entry later missing
    · rw [knownNames_cons_of_mem member, List.nodup_cons, mem_knownNames_iff member]
      exact ⟨lookup_eq_none_iff.mp last, reads.once⟩
    · intro other another held
      have different : other.name ≠ slot.name := fun equal => unheld (equal ▸ held)
      rw [lookup_cons_of_ne different]
      exact reads.fresh other another (List.mem_cons_of_mem _ held)
    · intro other another found given
      by_cases equal : other.name = slot.name
      · have same := lawful.eq_of_name another member equal
        subst same
        rw [self] at given
        cases given
        exact (lawful.slots other member).settles read (reads.unnamed other member last).2
      · rw [lookup_cons_of_ne equal] at given
        exact reads.named other another found given
    · intro other another missing
      have different : other.name ≠ slot.name := by
        intro equal
        rw [equal, self] at missing
        cases missing
      rw [lookup_cons_of_ne different] at missing
      obtain ⟨allowed, kept⟩ := reads.unnamed other another missing
      refine ⟨allowed.imp_right fun held => (List.mem_cons.mp held).resolve_left different, ?_⟩
      rw [kept, lawful.keeps member another (Ne.symm different) doc record next read]

end Objects

theorem complete_iff (given : List String) :
    form.complete given = true ↔ ∀ slot ∈ form.slots, slot.optional = true ∨ slot.name ∈ given := by
  simp [complete]

theorem readsInto_nil (lawful : form.Lawful) (given : List String) (record value : ρ) :
    form.ReadsInto given record [] value ↔ form.complete given = true ∧ record = value := by
  rw [complete_iff]
  constructor
  · intro reads
    exact ⟨fun slot member => (reads.unnamed slot member rfl).1,
      lawful.whole record value fun slot member => (reads.unnamed slot member rfl).2.symm⟩
  · rintro ⟨complete, rfl⟩
    refine ⟨by simp, by simp [knownNames], fun _ _ _ => rfl, by simp, ?_⟩
    exact fun slot member _ => ⟨complete slot member, rfl⟩

/-- Reading the members of an object one after another finds a value exactly if each slot does. -/
theorem readMembers_eq_ok_iff (lawful : form.Lawful) (value : ρ) (members : List (String × Json)) :
    ∀ (given : List String) (record : ρ), form.readMembers given record members = .ok value ↔
      form.ReadsInto given record members value := by
  -- The first member changes the record and joins the names that are given, whatever they were.
  induction members with
  | nil =>
      intro given record
      rw [readMembers, readsInto_nil lawful]
      by_cases complete : form.complete given = true <;> simp [complete]
  | cons member rest ih =>
      intro given record
      obtain ⟨name, doc⟩ := member
      rw [readMembers]
      cases found : form.slot? name with
      | none =>
          rw [readsInto_foreign found]
          by_cases whole : doc.intact = true <;> simp [whole, ih]
      | some slot =>
          obtain ⟨among, rfl⟩ := slot?_eq_some found
          rw [readsInto_named lawful among]
          by_cases held : slot.name ∈ given
          · simp [held]
          · cases read : slot.read doc record <;> simp [held, read, bind, Except.bind, ih]

/-- A slot that may not be left out has a document among the members. -/
theorem ReadsInto.part {members : List (String × Json)} {value : ρ} (reads : form.Reads members value)
    {slot : Slot ρ} (member : slot ∈ form.slots) (needed : slot.optional = false) :
    ∃ part, members.lookup slot.name = some part ∧ slot.Holds part value := by
  cases found : members.lookup slot.name with
  | some part => exact ⟨part, rfl, reads.named slot member part found⟩
  | none =>
      rcases (reads.unnamed slot member found).1 with optional | held
      · rw [needed] at optional
        cases optional
      · cases held

/-! ## Arrays -/

theorem length_le_of_readItems {value : ρ} (slots : List (Slot ρ)) (items : List Json) :
    ∀ record, readItems record slots items = .ok value → items.length ≤ slots.length := by
  induction slots generalizing items with
  | nil =>
      intro record read
      cases items with
      | nil => exact Nat.le_refl 0
      | cons item items => cases read
  | cons slot slots ih =>
      intro record read
      cases items with
      | nil => exact Nat.zero_le _
      | cons item items =>
          rw [readItems] at read
          cases taken : slot.read item record with
          | error fault => simp [taken, bind, Except.bind] at read
          | ok next =>
              simp only [taken, bind, Except.bind] at read
              exact Nat.succ_le_succ (ih items next read)

theorem readItems_nil (slots : List (Slot ρ)) (record : ρ) :
    readItems record slots [] =
      if slots.all (·.optional) then .ok record else .error .shape := by
  induction slots with
  | nil => rfl
  | cons slot slots ih =>
      rw [readItems, ih, List.all_cons]
      cases slot.optional <;> rfl

/-- The items of an array are read like members that the slots give their names to. -/
theorem readItems_eq (lawful : form.Lawful) (slots : List (Slot ρ)) :
    ∀ (before : List (Slot ρ)) (given : List String) (items : List Json) (record : ρ),
      form.slots = before ++ slots → (∀ name, name ∈ given ↔ name ∈ before.map (·.name)) →
      items.length ≤ slots.length →
        readItems record slots items =
          form.readMembers given record ((slots.map (·.name)).zip items) := by
  induction slots with
  | nil =>
      intro before given items record split names short
      obtain rfl := List.length_eq_zero_iff.mp (Nat.le_zero.mp short)
      have complete : form.complete given = true := by
        rw [complete_iff]
        intro slot member
        rw [split, List.append_nil] at member
        exact .inr ((names _).mpr (List.mem_map_of_mem member))
      rw [List.map_nil, List.zip_nil_left, readMembers, if_pos complete, readItems]
  | cons slot slots ih =>
      intro before given items record split names short
      have distinct := lawful.names
      rw [split, List.map_append, List.nodup_append] at distinct
      obtain ⟨-, -, apart⟩ := distinct
      cases items with
      | nil =>
          -- The slots before hold; whether the rest may be left out decides.
          have same : form.complete given = (slot :: slots).all (·.optional) := by
            rw [Bool.eq_iff_iff, complete_iff, List.all_eq_true, split]
            constructor
            · intro complete other member
              refine (complete other (List.mem_append_right _ member)).resolve_right fun held => ?_
              exact apart _ ((names _).mp held) _ (List.mem_map_of_mem member) rfl
            · intro optional other member
              rcases List.mem_append.mp member with earlier | later
              · exact .inr ((names _).mpr (List.mem_map_of_mem earlier))
              · exact .inl (optional other later)
          rw [readItems_nil, List.zip_nil_right, readMembers, same]
      | cons item items =>
          have member : slot ∈ form.slots := by
            rw [split]
            exact List.mem_append_right _ List.mem_cons_self
          have found : form.slot? slot.name = some slot := by
            obtain ⟨other, found⟩ : ∃ other, form.slot? slot.name = some other :=
              Option.ne_none_iff_exists'.mp (slot?_ne_none member)
            obtain ⟨another, same⟩ := slot?_eq_some found
            rw [found, lawful.eq_of_name another member same]
          have unheld : slot.name ∉ given := by
            rw [names]
            exact fun held => apart _ held _ (List.mem_map_of_mem List.mem_cons_self) rfl
          rw [List.map_cons, List.zip_cons_cons, readMembers, readItems, found]
          simp only [List.contains_eq_mem, unheld, decide_false, Bool.false_eq_true, if_false]
          cases taken : slot.read item record with
          | error fault => rfl
          | ok next =>
              simp only [bind, Except.bind]
              refine ih (before ++ [slot]) _ items next (by simp [split]) ?_
                (Nat.le_of_succ_le_succ short)
              intro name
              simp [names name, or_comm]

/-! ## Documents -/

/-- The members that a document gives a record: those of an object, or the items of an array under
the names of the slots. -/
def members? (form : Record ρ) : Json → Option (List (String × Json))
  | .object members => some members
  | .array items =>
    if items.length ≤ form.slots.length then some ((form.slots.map (·.name)).zip items) else none
  | _ => none

theorem ofJson_eq_ok_iff (lawful : form.Lawful) (doc : Json) (value : ρ) :
    form.ofJson doc = .ok value ↔ ∃ members, form.members? doc = some members ∧
      form.Reads members value := by
  cases doc with
  | object members => simp [Record.ofJson, members?, readMembers_eq_ok_iff lawful]
  | array items =>
      by_cases short : items.length ≤ form.slots.length
      · rw [Record.ofJson,
          readItems_eq lawful form.slots [] [] items form.blank rfl (by simp) short,
          readMembers_eq_ok_iff lawful]
        simp [members?, short]
      · simp only [members?, short, if_false, reduceCtorEq, false_and, exists_false, iff_false]
        exact fun read => short (length_le_of_readItems _ _ _ read)
  | _ => simp [Record.ofJson, members?]

/-! ## Reading back -/

def written (form : Record ρ) (record : ρ) : List (String × Json) :=
  form.slots.map fun slot => (slot.name, slot.write record)

theorem names_written (record : ρ) :
    (form.written record).map (·.1) = form.slots.map (·.name) := by
  rw [written, List.map_map]
  rfl

theorem mem_written_iff (lawful : form.Lawful) {slot : Slot ρ} (member : slot ∈ form.slots)
    (record : ρ) (doc : Json) :
    (slot.name, doc) ∈ form.written record ↔ doc = slot.write record := by
  rw [written, List.mem_map]
  constructor
  · rintro ⟨other, another, same⟩
    obtain ⟨named, given⟩ := Prod.mk.inj same
    rw [← given, lawful.eq_of_name another member named]
  · intro given
    exact ⟨slot, member, by rw [given]⟩

theorem legible_of_mem_written (lawful : form.Lawful) {record : ρ} {member : String × Json}
    (among : member ∈ form.written record) : member.2.Legible := by
  obtain ⟨slot, known, rfl⟩ := List.mem_map.mp among
  exact (lawful.slots slot known).legible record

theorem reads_written (lawful : form.Lawful) (record : ρ) :
    form.Reads (form.written record) record where
  foreign := by
    intro member among unknown
    obtain ⟨slot, known, rfl⟩ := List.mem_map.mp among
    exact absurd unknown (slot?_ne_none known)
  once := by
    rw [knownNames, names_written]
    exact lawful.names.filter _
  fresh := by simp
  named := by
    intro slot member doc found
    rw [(mem_written_iff lawful member record doc).mp (mem_of_lookup found)]
    exact (lawful.slots slot member).holds record
  unnamed := by
    intro slot member missing
    refine absurd ?_ (lookup_eq_none_iff.mp missing)
    rw [names_written]
    exact List.mem_map_of_mem member

theorem ofJson_toJson (lawful : form.Lawful) (record : ρ) :
    form.ofJson (form.toJson record) = .ok record :=
  (ofJson_eq_ok_iff lawful _ record).mpr ⟨_, rfl, reads_written lawful record⟩

theorem legible_toJson (lawful : form.Lawful) (record : ρ) : (form.toJson record).Legible :=
  .object _ fun _ among => legible_of_mem_written lawful among

theorem Lawful.faithful (lawful : form.Lawful) : @Faithful ρ form.wire :=
  @Faithful.mk ρ form.wire (ofJson_toJson lawful) (legible_toJson lawful)

end Record

end NetAudio.Json
