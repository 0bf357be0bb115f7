import NetAudio.Poll.Poller

/-!
# The schedule of a poller

When the fetches of a poller start is settled by its period and by how long they take: `turn` counts
it out, one tick after the other.  Two starts are never much closer than a period, whatever came
before, and a fetch that took too long is followed at once by one other and no more.
-/

set_option autoImplicit false

namespace NetAudio.Poller

structure Turn where
  due : Nat
  taken : Nat
  deriving DecidableEq, Repr

section Schedule
variable {α : Type} (period : Nat) (fetch : Nat → Fetch α)

/-- The tick that each fetch starts at, by the fetch's number. -/
def turn : Nat → Turn
  | 0 => ⟨0, 0⟩
  | n + 1 =>
    let last := turn n
    let due := nextDeadline period last.due last.taken
    ⟨due, max (last.taken + (fetch n).duration) due⟩

def startOf (n : Nat) : Nat := (turn period fetch n).taken

def endOf (n : Nat) : Nat := startOf period fetch n + (fetch n).duration

def dueOf (n : Nat) : Nat := (turn period fetch n).due

/-- When the fetch before the given one ends; the first has none before it. -/
def idleFrom : Nat → Nat
  | 0 => 0
  | n + 1 => endOf period fetch n

theorem dueOf_succ (n : Nat) : dueOf period fetch (n + 1) =
    nextDeadline period (dueOf period fetch n) (startOf period fetch n) := rfl

theorem startOf_succ (n : Nat) : startOf period fetch (n + 1) =
    max (endOf period fetch n) (dueOf period fetch (n + 1)) := rfl

theorem startOf_eq_max (n : Nat) : startOf period fetch n =
    max (idleFrom period fetch n) (dueOf period fetch n) := by
  cases n with
  | zero => rfl
  | succ n => rfl

theorem dueOf_le_startOf (n : Nat) : dueOf period fetch n ≤ startOf period fetch n := by
  rw [startOf_eq_max]
  exact Nat.le_max_right _ _

theorem idleFrom_le_startOf (n : Nat) : idleFrom period fetch n ≤ startOf period fetch n := by
  rw [startOf_eq_max]
  exact Nat.le_max_left _ _

/-! ## Pace -/

/-- However late a tick is taken, the next is due almost a period later. -/
theorem le_nextDeadline (due taken : Nat) :
    taken + period ≤ nextDeadline period due taken + tolerance := by
  rw [nextDeadline]
  split
  · omega
  · omega

theorem endOf_le_startOf (n : Nat) : endOf period fetch n ≤ startOf period fetch (n + 1) :=
  idleFrom_le_startOf period fetch (n + 1)

theorem startOf_add_one (n : Nat) :
    startOf period fetch n + (period - tolerance) ≤ startOf period fetch (n + 1) := by
  have next := le_nextDeadline period (dueOf period fetch n) (startOf period fetch n)
  have reached := dueOf_le_startOf period fetch (n + 1)
  rw [dueOf_succ] at reached
  -- A period shorter than the tolerance says nothing, but starts do not go back either.
  have forward := endOf_le_startOf period fetch n
  rw [endOf] at forward
  omega

/-- So many fetches later, so many times almost a period has passed. -/
theorem startOf_add (n count : Nat) :
    startOf period fetch n + count * (period - tolerance) ≤ startOf period fetch (n + count) := by
  induction count with
  | zero => simp
  | succ count ih =>
      have next := startOf_add_one period fetch (n + count)
      rw [Nat.succ_mul, ← Nat.add_assoc n count 1]
      omega

theorem endOf_le_of_lt {n m : Nat} (before : n < m) :
    endOf period fetch n ≤ idleFrom period fetch m := by
  induction m with
  | zero => exact absurd before (Nat.not_lt_zero n)
  | succ m ih =>
      rcases Nat.lt_succ_iff_lt_or_eq.mp before with earlier | rfl
      · have next := idleFrom_le_startOf period fetch m
        have lasts : startOf period fetch m ≤ endOf period fetch m := Nat.le_add_right _ _
        exact Nat.le_trans (ih earlier) (Nat.le_trans next lasts)
      · exact Nat.le_refl _

/-- What the starts of a poller's fetches keep to.  `period` is the one that the poller runs with. -/
structure Paced : Prop where
  first : startOf period fetch 0 = 0
  /-- No fetch starts before the last one has ended. -/
  apart : ∀ n, endOf period fetch n ≤ startOf period fetch (n + 1)
  spaced : ∀ n count,
    startOf period fetch n + count * (period - tolerance) ≤ startOf period fetch (n + count)
  /-- A fetch that lasts past the next tick is followed at once by one more fetch, and then by
  none for almost a period. -/
  caughtUp : ∀ n, dueOf period fetch (n + 1) ≤ endOf period fetch n →
    startOf period fetch (n + 1) = endOf period fetch n ∧
      endOf period fetch n + (period - tolerance) ≤ startOf period fetch (n + 2)
  /-- Any other fetch is followed by one at the next tick. -/
  onTime : ∀ n, endOf period fetch n ≤ dueOf period fetch (n + 1) →
    startOf period fetch (n + 1) = dueOf period fetch (n + 1)

theorem paced : Paced period fetch where
  first := rfl
  apart := endOf_le_startOf period fetch
  spaced := startOf_add period fetch
  caughtUp n overdue := by
    have next : startOf period fetch (n + 1) = endOf period fetch n := by
      rw [startOf_succ]
      exact Nat.max_eq_left overdue
    have later := startOf_add_one period fetch (n + 1)
    rw [next] at later
    exact ⟨next, later⟩
  onTime n early := by
    rw [startOf_succ]
    exact Nat.max_eq_right early

end Schedule

end NetAudio.Poller
