import NetAudio.Toml.Basic

/-!
# Building TOML tables

Statements build the tables of a document one after another.  A table remembers how it came to be,
because that decides what may still be added to it: a header may take up a table that only a longer
header has implied, and dotted names may only go through tables that dotted names have made.
-/

set_option autoImplicit false

namespace NetAudio.Toml

/-- How a table came to be. -/
inductive Origin where
  /-- It stands on the way to another table's header. -/
  | implied
  /-- It stands on the way of a dotted name. -/
  | dotted
  /-- It has a header of its own, or is the document. -/
  | headed
  deriving DecidableEq, Repr

inductive Node where
  | value (value : Toml)
  | table (origin : Origin) (members : List (String × Node))
  /-- A list of headed tables; the last one may still grow. -/
  | tables (done : List (List (String × Node))) (last : List (String × Node))

abbrev Members := List (String × Node)

namespace Members

/-- Replaces the member of a name, or adds it at the end. -/
def put (name : String) (node : Node) : Members → Members
  | [] => [(name, node)]
  | (other, kept) :: rest =>
    if other = name then (name, node) :: rest else (other, kept) :: put name node rest

/-- Goes along a path of names and changes the table at its end.  Tables that are missing on the way
are made. -/
def within (dotted : Bool) (change : Origin → Members → Option Members) :
    List String → Origin → Members → Option Members
  | [], origin, members => change origin members
  | name :: path, _, members =>
    match members.lookup name with
    | none => do
      let origin : Origin := if dotted then .dotted else .implied
      return put name (.table origin (← within dotted change path origin [])) members
    | some (.value _) => none
    | some (.table origin inner) =>
      if dotted ∧ origin = .headed then none
      else do return put name (.table origin (← within dotted change path origin inner)) members
    | some (.tables done last) => do
      return put name (.tables done (← within dotted change path .headed last)) members

def openTable (name : String) (members : Members) : Option Members :=
  match members.lookup name with
  | none => some (put name (.table .headed []) members)
  | some (.table .implied inner) => some (put name (.table .headed inner) members)
  | some _ => none

def openNext (name : String) (members : Members) : Option Members :=
  match members.lookup name with
  | none => some (put name (.tables [] []) members)
  | some (.tables done last) => some (put name (.tables (done ++ [last]) []) members)
  | some _ => none

def addEntry (path : List String) (value : Toml) (origin : Origin) (members : Members) :
    Option Members :=
  match path.getLast? with
  | none => none
  | some name =>
    let way := path.dropLast
    within true (fun origin members =>
      if (origin = .dotted) = way.isEmpty ∨ (members.lookup name).isSome then none
      else some (put name (.value value) members)) way origin members

end Members

mutual

def Node.toToml : Node → Toml
  | .value value => value
  | .table _ members => .table (membersToToml members)
  | .tables done last => .array (tablesToToml done ++ [.table (membersToToml last)])

def membersToToml : List (String × Node) → List (String × Toml)
  | [] => []
  | (name, node) :: rest => (name, node.toToml) :: membersToToml rest

def tablesToToml : List (List (String × Node)) → List Toml
  | [] => []
  | members :: rest => .table (membersToToml members) :: tablesToToml rest

end

/-- One statement of a document. -/
inductive Statement where
  | header (path : List String)
  | nextHeader (path : List String)
  | entry (path : List String) (value : Toml)

/-- A document that is being built, and the path of the table that entries go to. -/
structure Builder where
  root : Members
  current : List String

def Builder.add (builder : Builder) : Statement → Option Builder
  | .header path => do
    let root ← Members.within false (fun _ => Members.openTable (path.getLast?.getD ""))
      path.dropLast .headed builder.root
    return { root, current := path }
  | .nextHeader path => do
    let root ← Members.within false (fun _ => Members.openNext (path.getLast?.getD ""))
      path.dropLast .headed builder.root
    return { root, current := path }
  | .entry path value => do
    let root ← Members.within false (Members.addEntry path value) builder.current .headed builder.root
    return { builder with root }

def ofStatements? (statements : List Statement) : Option Toml := do
  let builder ← statements.foldlM Builder.add { root := [], current := [] }
  return .table (membersToToml builder.root)

def ofEntries? (entries : List (List String × Toml)) : Option Toml := do
  let members ← entries.foldlM (fun members (path, value) =>
    Members.addEntry path value .headed members) []
  return .table (membersToToml members)

end NetAudio.Toml
