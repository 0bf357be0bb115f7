import NetAudio.Proofs.Lookup
import NetAudio.Toml.Reader

/-!
# Names in a TOML document

No table of a document that is read has two members of one name, at any depth.  A table that is being
built gets a name either new or in the place of the member that had it, so every statement keeps this.
-/

set_option autoImplicit false

namespace NetAudio.Toml

/-- Every table in the value has members of different names. -/
inductive Distinct : Toml → Prop where
  | scalar (value : Scalar) : Distinct (.scalar value)
  | array {items : List Toml} (items_distinct : ∀ item ∈ items, Distinct item) :
      Distinct (.array items)
  | table {members : List (String × Toml)} (names : (members.map (·.1)).Nodup)
      (values : ∀ member ∈ members, Distinct member.2) : Distinct (.table members)

theorem Distinct.names {members : List (String × Toml)} :
    (Toml.table members).Distinct → (members.map (·.1)).Nodup
  | .table names _ => names

theorem Distinct.under {members : List (String × Toml)} {name : String} {value : Toml}
    (found : members.lookup name = some value) : (Toml.table members).Distinct → value.Distinct
  | .table _ values => values _ (mem_of_lookup found)

mutual

inductive Node.Distinct : Node → Prop where
  | value {value : Toml} (distinct : value.Distinct) : Node.Distinct (.value value)
  | table {origin : Origin} {members : Members} (distinct : Members.Distinct members) :
      Node.Distinct (.table origin members)
  | tables {done : List Members} {last : Members} (earlier : ∀ members ∈ done, Members.Distinct members)
      (distinct : Members.Distinct last) : Node.Distinct (.tables done last)

inductive Members.Distinct : Members → Prop where
  | mk {members : Members} (names : (members.map (·.1)).Nodup)
      (nodes : ∀ member ∈ members, Node.Distinct member.2) : Members.Distinct members

end

/-! ## Building -/

namespace Members

theorem Distinct.nil : Distinct [] := ⟨List.nodup_nil, List.forall_mem_nil _⟩

theorem Distinct.node {members : Members} (distinct : members.Distinct) {name : String} {node : Node}
    (found : members.lookup name = some node) : node.Distinct := by
  obtain ⟨-, nodes⟩ := distinct
  exact nodes _ (mem_of_lookup found)

theorem names_put (name : String) (node : Node) (members : Members) :
    (put name node members).map (·.1) =
      if name ∈ members.map (·.1) then members.map (·.1) else members.map (·.1) ++ [name] := by
  induction members with
  | nil => rfl
  | cons member rest ih =>
      obtain ⟨other, kept⟩ := member
      by_cases same : other = name
      · simp [put, same]
      · rw [put, if_neg same, List.map_cons, ih]
        simp only [List.map_cons, List.mem_cons, Ne.symm same, false_or]
        split <;> rfl

theorem mem_put {name : String} {node : Node} {members : Members} {member : String × Node}
    (among : member ∈ put name node members) : member = (name, node) ∨ member ∈ members := by
  induction members with
  | nil => exact .inl (List.mem_singleton.mp among)
  | cons first rest ih =>
      obtain ⟨other, kept⟩ := first
      rw [put] at among
      split at among
      · rcases List.mem_cons.mp among with new | old
        · exact .inl new
        · exact .inr (List.mem_cons_of_mem _ old)
      · rcases List.mem_cons.mp among with first | later
        · exact .inr (first ▸ List.mem_cons_self)
        · exact (ih later).imp_right (List.mem_cons_of_mem _)

theorem Distinct.put {members : Members} (distinct : members.Distinct) {node : Node}
    (new : node.Distinct) (name : String) : (put name node members).Distinct := by
  obtain ⟨names, nodes⟩ := distinct
  refine ⟨?_, ?_⟩
  · rw [names_put]
    split
    · exact names
    · next fresh =>
        rw [List.nodup_append]
        refine ⟨names, List.nodup_singleton name, ?_⟩
        rintro other member _ alone rfl
        exact fresh (List.mem_singleton.mp alone ▸ member)
  · intro member among
    rcases mem_put among with rfl | old
    · exact new
    · exact nodes member old

def KeepsDistinct (change : Origin → Members → Option Members) : Prop :=
  ∀ origin members changed, Members.Distinct members → change origin members = some changed →
    Members.Distinct changed

theorem within_keepsDistinct {dotted : Bool} {change : Origin → Members → Option Members}
    (keeps : KeepsDistinct change) (path : List String) :
    KeepsDistinct (within dotted change path) := by
  induction path with
  | nil => exact keeps
  | cons name path ih =>
      intro origin members changed distinct run
      rw [within] at run
      cases found : members.lookup name with
      | none =>
          rw [found] at run
          obtain ⟨inner, below, placed⟩ := Option.bind_eq_some_iff.mp run
          cases placed
          exact distinct.put (.table (ih _ _ _ .nil below)) name
      | some node =>
          rw [found] at run
          have inside := distinct.node found
          cases inside with
          | value => cases run
          | @table origin inner held =>
              dsimp only at run
              split at run
              · cases run
              · obtain ⟨grown, below, placed⟩ := Option.bind_eq_some_iff.mp run
                cases placed
                exact distinct.put (.table (ih _ _ _ held below)) name
          | @tables done last earlier held =>
              obtain ⟨grown, below, placed⟩ := Option.bind_eq_some_iff.mp run
              cases placed
              exact distinct.put (.tables earlier (ih _ _ _ held below)) name

theorem openTable_keepsDistinct (name : String) : KeepsDistinct fun _ => openTable name := by
  intro _ members changed distinct run
  dsimp only [openTable] at run
  split at run
  · cases run
    exact distinct.put (.table .nil) name
  · next inner found =>
      cases run
      cases distinct.node found with
      | table held => exact distinct.put (.table held) name
  · cases run

theorem openNext_keepsDistinct (name : String) : KeepsDistinct fun _ => openNext name := by
  intro _ members changed distinct run
  dsimp only [openNext] at run
  split at run
  · cases run
    exact distinct.put (.tables (List.forall_mem_nil _) .nil) name
  · next done last found =>
      cases run
      cases distinct.node found with
      | tables earlier held =>
          refine distinct.put (.tables ?_ .nil) name
          rw [List.forall_mem_append, List.forall_mem_singleton]
          exact ⟨earlier, held⟩
  · cases run

theorem addEntry_keepsDistinct (path : List String) {value : Toml} (given : value.Distinct) :
    KeepsDistinct (addEntry path value) := by
  intro origin members changed distinct run
  rw [addEntry] at run
  split at run
  · cases run
  · next name _ =>
      refine within_keepsDistinct ?_ _ origin members changed distinct run
      intro origin members changed distinct placed
      dsimp only at placed
      split at placed
      · cases placed
      · cases placed
        exact distinct.put (.value given) name

end Members

theorem foldlM_keeps {σ α : Type} (Holds : σ → Prop) {step : σ → α → Option σ} {items : List α}
    (keeps : ∀ state next, ∀ item ∈ items, Holds state → step state item = some next → Holds next)
    {state last : σ} (begins : Holds state) (run : items.foldlM step state = some last) :
    Holds last := by
  induction items generalizing state with
  | nil =>
      cases run
      exact begins
  | cons item items ih =>
      rw [List.foldlM_cons] at run
      obtain ⟨next, first, rest⟩ := Option.bind_eq_some_iff.mp run
      exact ih (fun state next item among => keeps state next item (List.mem_cons_of_mem _ among))
        (keeps state next item List.mem_cons_self begins first) rest

/-! ## Built values -/

theorem membersToToml_eq_map (members : Members) :
    membersToToml members = members.map fun (name, node) => (name, node.toToml) := by
  induction members with
  | nil => rfl
  | cons member members ih =>
      rw [List.map_cons, ← ih]
      rfl

theorem tablesToToml_eq_map (done : List Members) :
    tablesToToml done = done.map fun members => .table (membersToToml members) := by
  induction done with
  | nil => rfl
  | cons members done ih =>
      rw [List.map_cons, ← ih]
      rfl

mutual

theorem Node.Distinct.toToml : {node : Node} → node.Distinct → node.toToml.Distinct
  | _, .value distinct => distinct
  | _, .table distinct => distinct.toToml
  | _, .tables earlier distinct => by
      refine .array ?_
      rw [tablesToToml_eq_map, List.forall_mem_append, List.forall_mem_singleton]
      refine ⟨?_, distinct.toToml⟩
      intro item among
      obtain ⟨members, member, rfl⟩ := List.mem_map.mp among
      exact (earlier members member).toToml

theorem Members.Distinct.toToml :
    {members : Members} → members.Distinct → (Toml.table (membersToToml members)).Distinct
  | members, .mk names nodes => by
      refine .table ?_ ?_
      · rw [membersToToml_eq_map, List.map_map]
        exact names
      · intro member among
        rw [membersToToml_eq_map] at among
        obtain ⟨⟨name, node⟩, listed, rfl⟩ := List.mem_map.mp among
        exact (nodes _ listed).toToml

end

theorem ofEntries?_distinct {entries : List (List String × Toml)} {value : Toml}
    (given : ∀ entry ∈ entries, entry.2.Distinct) (built : ofEntries? entries = some value) :
    value.Distinct := by
  obtain ⟨members, run, placed⟩ := Option.bind_eq_some_iff.mp built
  cases placed
  have distinct : Members.Distinct members := by
    refine foldlM_keeps Members.Distinct ?_ .nil run
    intro members next entry among distinct added
    exact Members.addEntry_keepsDistinct entry.1 (given entry among) _ _ _ distinct added
  exact distinct.toToml

/-! ## Reading -/

structure ReadsDistinct (fuel : Nat) : Prop where
  value : ∀ depth chars value rest, value? fuel depth chars = some (value, rest) → value.Distinct
  items : ∀ depth chars items rest, items? fuel depth chars = some (items, rest) →
    ∀ item ∈ items, item.Distinct
  entries : ∀ depth chars entries rest, entries? fuel depth chars = some (entries, rest) →
    ∀ entry ∈ entries, entry.2.Distinct

section Steps
variable {fuel : Nat} (reads : ReadsDistinct fuel)
include reads

theorem value?_distinct {depth : Nat} {chars rest : List Char} {value : Toml}
    (read : value? (fuel + 1) depth chars = some (value, rest)) : value.Distinct := by
  rw [value?.eq_def] at read
  dsimp only at read
  split at read
  · cases read
  -- an array
  · next same =>
      cases same
      split at read
      · cases read
      · obtain ⟨⟨items, after⟩, inside, placed⟩ := Option.bind_eq_some_iff.mp read
        have distinct := reads.items _ _ _ _ inside
        cases placed
        exact .array distinct
  -- a table, which may be empty
  · next same =>
      cases same
      split at read
      · cases read
      · split at read
        all_goals
          obtain ⟨⟨entries, after⟩, inside, read⟩ := Option.bind_eq_some_iff.mp read
          obtain ⟨built, made, placed⟩ := Option.bind_eq_some_iff.mp read
        · cases inside
          cases placed
          exact ofEntries?_distinct (List.forall_mem_nil _) made
        · have distinct := reads.entries _ _ _ _ inside
          cases placed
          exact ofEntries?_distinct distinct made
  -- a string or a word
  · split at read
    all_goals
      obtain ⟨_, _, placed⟩ := Option.bind_eq_some_iff.mp read
      cases placed
      exact .scalar _

theorem items?_distinct {depth : Nat} {chars rest : List Char} {items : List Toml}
    (read : items? (fuel + 1) depth chars = some (items, rest)) : ∀ item ∈ items, item.Distinct := by
  rw [items?] at read
  split at read
  · cases read
    exact List.forall_mem_nil _
  · obtain ⟨⟨item, after⟩, first, read⟩ := Option.bind_eq_some_iff.mp read
    have distinct := reads.value _ _ _ _ first
    dsimp only at read
    split at read
    · obtain ⟨⟨others, after⟩, more, placed⟩ := Option.bind_eq_some_iff.mp read
      cases placed
      exact List.forall_mem_cons.mpr ⟨distinct, reads.items _ _ _ _ more⟩
    · cases read
      exact List.forall_mem_singleton.mpr distinct
    · cases read

theorem entries?_distinct {depth : Nat} {chars rest : List Char} {entries : List (List String × Toml)}
    (read : entries? (fuel + 1) depth chars = some (entries, rest)) :
    ∀ entry ∈ entries, entry.2.Distinct := by
  rw [entries?] at read
  obtain ⟨⟨path, after⟩, -, read⟩ := Option.bind_eq_some_iff.mp read
  dsimp only at read
  split at read
  · obtain ⟨⟨value, after⟩, first, read⟩ := Option.bind_eq_some_iff.mp read
    have distinct := reads.value _ _ _ _ first
    dsimp only at read
    split at read
    · obtain ⟨⟨others, after⟩, more, placed⟩ := Option.bind_eq_some_iff.mp read
      cases placed
      exact List.forall_mem_cons.mpr ⟨distinct, reads.entries _ _ _ _ more⟩
    · cases read
      exact List.forall_mem_singleton.mpr distinct
    · cases read
  · cases read

end Steps

theorem readsDistinct (fuel : Nat) : ReadsDistinct fuel := by
  induction fuel with
  | zero => exact ⟨nofun, nofun, nofun⟩
  | succ fuel reads =>
      exact ⟨fun _ _ _ _ => value?_distinct reads, fun _ _ _ _ => items?_distinct reads,
        fun _ _ _ _ => entries?_distinct reads⟩

/-! ## Documents -/

inductive Statement.Distinct : Statement → Prop where
  | header (path : List String) : Statement.Distinct (.header path)
  | nextHeader (path : List String) : Statement.Distinct (.nextHeader path)
  | entry (path : List String) {value : Toml} (distinct : value.Distinct) :
      Statement.Distinct (.entry path value)

theorem statement?_distinct {chars rest : List Char} {statement : Statement}
    (read : statement? chars = some (statement, rest)) : statement.Distinct := by
  rw [statement?.eq_def] at read
  split at read
  · obtain ⟨⟨path, after⟩, -, read⟩ := Option.bind_eq_some_iff.mp read
    dsimp only at read
    split at read
    · cases read
      exact .nextHeader path
    · cases read
  · obtain ⟨⟨path, after⟩, -, read⟩ := Option.bind_eq_some_iff.mp read
    dsimp only at read
    split at read
    · cases read
      exact .header path
    · cases read
  · obtain ⟨⟨path, after⟩, -, read⟩ := Option.bind_eq_some_iff.mp read
    dsimp only at read
    split at read
    · obtain ⟨⟨value, after⟩, given, placed⟩ := Option.bind_eq_some_iff.mp read
      cases placed
      exact .entry path ((readsDistinct _).value _ _ _ _ given)
    · cases read

theorem statements?_distinct {fuel : Nat} {chars : List Char} {statements : List Statement}
    (read : statements? fuel chars = some statements) :
    ∀ statement ∈ statements, statement.Distinct := by
  induction fuel generalizing chars statements with
  | zero => cases read
  | succ fuel ih =>
      rw [statements?] at read
      split at read
      · cases read
        exact List.forall_mem_nil _
      · exact ih read
      · exact ih read
      · obtain ⟨_, -, read⟩ := Option.bind_eq_some_iff.mp read
        exact ih read
      · obtain ⟨⟨statement, after⟩, first, read⟩ := Option.bind_eq_some_iff.mp read
        obtain ⟨_, -, read⟩ := Option.bind_eq_some_iff.mp read
        obtain ⟨others, more, placed⟩ := Option.bind_eq_some_iff.mp read
        cases placed
        exact List.forall_mem_cons.mpr ⟨statement?_distinct first, ih more⟩

theorem Builder.add_distinct {builder next : Builder} {statement : Statement}
    (given : statement.Distinct) (distinct : builder.root.Distinct)
    (added : builder.add statement = some next) : next.root.Distinct := by
  cases given with
  | header path =>
      obtain ⟨root, below, placed⟩ := Option.bind_eq_some_iff.mp added
      cases placed
      exact Members.within_keepsDistinct (Members.openTable_keepsDistinct _) _ _ _ _ distinct below
  | nextHeader path =>
      obtain ⟨root, below, placed⟩ := Option.bind_eq_some_iff.mp added
      cases placed
      exact Members.within_keepsDistinct (Members.openNext_keepsDistinct _) _ _ _ _ distinct below
  | entry path value =>
      obtain ⟨root, below, placed⟩ := Option.bind_eq_some_iff.mp added
      cases placed
      exact Members.within_keepsDistinct (Members.addEntry_keepsDistinct path value) _ _ _ _ distinct
        below

/-- A document that is read is a table, and no table in it names a member twice. -/
theorem read?_distinct {text : String} {document : Toml} (read : read? text = some document) :
    ∃ members, document = .table members ∧ document.Distinct := by
  obtain ⟨statements, parsed, built⟩ := Option.bind_eq_some_iff.mp read
  obtain ⟨builder, run, placed⟩ := Option.bind_eq_some_iff.mp built
  cases placed
  have distinct : builder.root.Distinct := by
    refine foldlM_keeps (fun builder : Builder => builder.root.Distinct) ?_ .nil run
    intro builder next statement among distinct added
    exact builder.add_distinct (statements?_distinct parsed statement among) distinct added
  exact ⟨_, rfl, distinct.toToml⟩

end NetAudio.Toml
