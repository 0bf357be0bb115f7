/-!
# Pollers

A poller fetches a value again and again, one fetch at a time, and keeps the last value that arrived.
Time is counted in milliseconds from its start.  A fetch starts at a tick; the first tick is due at
once.  A tick that is taken no more than a little late is followed by one a period after it was due,
a later one by one a period after it was taken, so that fetches that take long are not made up for.

A poller that is cancelled starts no fetch but finishes the one that runs.  If a tick is due at that
moment too, either may be seen first.
-/

set_option autoImplicit false

namespace NetAudio

/-- A fetched value and the moment it arrived. -/
structure Snapshot (Moment α : Type) where
  value : α
  fetchedAt : Moment
  deriving DecidableEq, Repr

/-- A fetch: how long it takes, and the value it brings unless it fails. -/
structure Fetch (α : Type) where
  duration : Nat
  result : Option α
  deriving DecidableEq, Repr

inductive Poller.Phase (α : Type) where
  | waiting
  | fetching (finish : Nat) (result : Option α)
  | ended
  deriving DecidableEq, Repr

structure Poller (α : Type) where
  period : Nat
  now : Nat
  /-- When the next tick is due. -/
  deadline : Nat
  phase : Poller.Phase α
  /-- How many fetches have started. -/
  fetches : Nat
  latest : Option (Snapshot Nat α)
  cancelled : Bool
  deriving DecidableEq, Repr

/-- What a poller cannot choose, for each fetch by its number: the fetch itself, and whether it starts
if its tick is due together with a cancellation. -/
structure Poller.World (α : Type) where
  fetch : Nat → Fetch α
  ticksFirst : Nat → Bool

namespace Poller

variable {α : Type}

/-- No period is shorter. -/
def minPeriod : Nat := 10

/-- How late a tick may be taken without moving the ones after it. -/
def tolerance : Nat := 5

def start (period : Nat) : Poller α where
  period := max period minPeriod
  now := 0
  deadline := 0
  phase := .waiting
  fetches := 0
  latest := none
  cancelled := false

/-- When the tick after one that was due at `deadline` and taken at `taken` is due. -/
def nextDeadline (period deadline taken : Nat) : Nat :=
  if taken ≤ deadline + tolerance then deadline + period else taken + period

def beginFetch (poller : Poller α) (fetch : Fetch α) (taken : Nat) : Poller α :=
  { poller with
    now := taken
    deadline := nextDeadline poller.period poller.deadline taken
    phase := .fetching (taken + fetch.duration) fetch.result
    fetches := poller.fetches + 1 }

/-- Ends a fetch; one that fails leaves the last value in place. -/
def endFetch (poller : Poller α) (finish : Nat) (result : Option α) : Poller α :=
  { poller with
    now := finish
    phase := .waiting
    latest := match result with
      | some value => some { value, fetchedAt := finish }
      | none => poller.latest }

/-- What happens next, if it happens no later than `horizon`. -/
def step? (world : World α) (horizon : Nat) (poller : Poller α) : Option (Poller α) :=
  match poller.phase with
  | .ended => none
  | .fetching finish result =>
    if finish ≤ horizon then some (poller.endFetch finish result) else none
  | .waiting =>
    let taken := max poller.now poller.deadline
    if poller.cancelled && !(taken = poller.now && world.ticksFirst poller.fetches) then
      some { poller with phase := .ended }
    else if taken ≤ horizon then
      some (poller.beginFetch (world.fetch poller.fetches) taken)
    else none

/-- Lets up to `fuel` things happen until `horizon`. -/
def steps (world : World α) (horizon : Nat) : (fuel : Nat) → Poller α → Poller α
  | 0, poller => poller
  | fuel + 1, poller =>
    match poller.step? world horizon with
    | some next => steps world horizon fuel next
    | none => poller

/-- Lets time pass.  Fetches start at least five milliseconds apart, so that no more things happen
than the fuel allows. -/
def sleep (world : World α) (duration : Nat) (poller : Poller α) : Poller α :=
  let horizon := poller.now + duration
  { poller.steps world horizon (duration + 4) with now := horizon }

def cancel (poller : Poller α) : Poller α := { poller with cancelled := true }

/-- The end of the fetch that runs, or else the present. -/
def busyUntil (poller : Poller α) : Nat :=
  match poller.phase with
  | .fetching finish _ => finish
  | .waiting | .ended => poller.now

/-- Lets up to `turns` things happen without waiting for a tick. -/
def drain (world : World α) : (turns : Nat) → Poller α → Poller α
  | 0, poller => poller
  | turns + 1, poller =>
    match poller.step? world poller.busyUntil with
    | some next => drain world turns next
    | none => poller

/-- Asks the poller to end and waits until it has.  Where cancellations are seen first, that takes two
turns at most: the fetch that runs ends, and then the poller. -/
def stop (world : World α) (turns : Nat) (poller : Poller α) : Poller α :=
  drain world turns poller.cancel

end Poller

end NetAudio
