import NetAudio.Proofs.Poll.Run

/-!
# What an owner does to a poller

An owner lets time pass, cancels the poller, or stops it; dropping it cancels it.  All of this is made
of moves, so that every state an owner brings a poller to is met on a course.  Time passes in as many
turns as it takes: whatever falls into it happens.
-/

set_option autoImplicit false

namespace NetAudio

inductive PollerStep where
  | sleep (duration : Nat)
  | cancel
  | stop (turns : Nat)
  deriving DecidableEq, Repr

namespace Poller
variable {α : Type} {world : World α} {period : Nat} {events : List (PollEvent α)}
  {poller after : Poller α}

def perform (world : World α) (poller : Poller α) : PollerStep → Poller α
  | .sleep duration => poller.sleep world duration
  | .cancel => poller.cancel
  | .stop turns => poller.stop world turns

def afterSteps (world : World α) (poller : Poller α) : List PollerStep → Poller α
  | [] => poller
  | step :: rest => afterSteps world (poller.perform world step) rest

theorem Course.stay (course : Course world period events poller) :
    ∃ more, Course world period (events ++ more) poller := by
  refine ⟨[], ?_⟩
  rw [List.append_nil]
  exact course

theorem Course.join {first : List (PollEvent α)}
    (onward : ∃ more, Course world period (events ++ first ++ more) after) :
    ∃ more, Course world period (events ++ more) after := by
  obtain ⟨more, course⟩ := onward
  rw [List.append_assoc] at course
  exact ⟨first ++ more, course⟩

/-! ## Time that passes -/

theorem Accounted.minPeriod_le {pace : Nat} (accounted : Accounted (max pace minPeriod) world events poller) :
    minPeriod ≤ poller.period := by
  rw [accounted.ownPace]
  exact Nat.le_max_right _ _

/-- What may still happen up to `horizon` to a poller that takes no tick before `next`. -/
def turnsFrom (horizon next : Nat) : Nat := if next ≤ horizon then horizon - next + 3 else 1

def pending (horizon : Nat) (poller : Poller α) : Nat :=
  match poller.phase with
  | .ended => 0
  | .waiting => turnsFrom horizon (max poller.now poller.deadline)
  | .fetching finish _ => turnsFrom horizon (max finish poller.deadline) + 1

theorem turnsFrom_pos (horizon next : Nat) : 0 < turnsFrom horizon next := by
  rw [turnsFrom]
  split <;> omega

/-- Between two starts there is time for all that happens in between. -/
theorem turnsFrom_lt {horizon next later : Nat} (within : next ≤ horizon) (spaced : next + 5 ≤ later) :
    turnsFrom horizon later + 1 < turnsFrom horizon next := by
  rw [turnsFrom, turnsFrom, if_pos within]
  split <;> omega

theorem Next.pending_lt {horizon : Nat} (next : Next world poller horizon after)
    (long : minPeriod ≤ poller.period) : after.pending horizon < poller.pending horizon := by
  cases next with
  | finish time result running within => simp [pending, running, endFetch]
  | begin waits goesOn within =>
      simp only [pending, waits, beginFetch]
      apply turnsFrom_lt within
      have spaced := le_nextDeadline poller.period poller.deadline (max poller.now poller.deadline)
      rw [tolerance] at spaced
      rw [minPeriod] at long
      omega
  | close waits closes =>
      simp only [pending, waits]
      exact turnsFrom_pos _ _

theorem Next.now_le {horizon : Nat} (next : Next world poller horizon after)
    (early : poller.now ≤ horizon) : after.now ≤ horizon := by
  cases next with
  | finish time result running within => exact within
  | begin waits goesOn within => exact within
  | close waits closes => exact early

/-- Where the fuel is enough, all happens that falls into the time. -/
theorem Course.steps {horizon fuel : Nat} (course : Course world period events poller)
    (early : poller.now ≤ horizon) (enough : poller.pending horizon ≤ fuel) :
    ∃ more, Course world period (events ++ more) (poller.steps world horizon fuel) ∧
      (poller.steps world horizon fuel).now ≤ horizon ∧
      (poller.steps world horizon fuel).step? world horizon = none := by
  have long := (course_accounted course).minPeriod_le
  induction fuel generalizing events poller with
  | zero =>
      refine ⟨[], ?_, early, ?_⟩
      · rw [List.append_nil]
        exact course
      · cases found : poller.step? world horizon with
        | none => exact found
        | some after =>
            have fewer := ((step?_eq_some_iff horizon).mp found).pending_lt long
            omega
  | succ fuel ih =>
      cases found : poller.step? world horizon with
      | none =>
          simp only [Poller.steps, found]
          refine ⟨[], ?_, early, trivial⟩
          rw [List.append_nil]
          exact course
      | some after =>
          simp only [Poller.steps, found]
          have next := (step?_eq_some_iff horizon).mp found
          obtain ⟨event, move⟩ := next.moves
          have fewer := next.pending_lt long
          have forward := course.move move
          obtain ⟨more, onward, within, quiet⟩ := ih forward (next.now_le early) (by omega)
            (course_accounted forward).minPeriod_le
          refine ⟨event :: more, ?_, within, quiet⟩
          rw [Option.toList_some, List.append_assoc] at onward
          exact onward

theorem pending_le (course : Course world period events poller) (duration : Nat) :
    poller.pending (poller.now + duration) ≤ duration + 4 := by
  have standing := (course_accounted course).standing
  rw [Standing] at standing
  rw [pending]
  cases phase : poller.phase with
  | ended => exact Nat.zero_le _
  | waiting =>
      simp only [turnsFrom]
      split <;> omega
  | fetching finish result =>
      rw [phase] at standing
      obtain ⟨n, -, -, -, -, running⟩ := standing
      simp only [turnsFrom]
      split <;> omega

theorem Course.sleep (course : Course world period events poller) (duration : Nat) :
    ∃ more, Course world period (events ++ more) (poller.sleep world duration) := by
  obtain ⟨more, onward, within, quiet⟩ :=
    course.steps (Nat.le_add_right poller.now duration) (pending_le course duration)
  have silent : ∀ earlier, earlier < poller.now + duration →
      (poller.steps world (poller.now + duration) (duration + 4)).step? world earlier = none := by
    intro earlier before
    cases found : (poller.steps world (poller.now + duration) (duration + 4)).step? world earlier with
    | none => rfl
    | some next =>
        rw [step?_of_le (Nat.le_of_lt before) found] at quiet
        cases quiet
  have passed := onward.move (.pass (poller.now + duration) within silent)
  rw [Option.toList_none, List.append_nil] at passed
  exact ⟨more, passed⟩

/-! ## Cancelling and stopping -/

theorem Course.cancel (course : Course world period events poller) :
    Course world period (events ++ [.cancelled poller.now]) poller.cancel :=
  course.move .cancel

theorem Course.drain (course : Course world period events poller) (turns : Nat) :
    ∃ more, Course world period (events ++ more) (poller.drain world turns) := by
  induction turns generalizing events poller with
  | zero => exact course.stay
  | succ turns ih =>
      rw [Poller.drain]
      cases found : poller.step? world poller.busyUntil with
      | none => exact course.stay
      | some after =>
          obtain ⟨event, move⟩ := ((step?_eq_some_iff _).mp found).moves
          exact Course.join (ih (course.move move))

theorem Course.perform (course : Course world period events poller) (step : PollerStep) :
    ∃ more, Course world period (events ++ more) (poller.perform world step) := by
  cases step with
  | sleep duration => exact course.sleep duration
  | cancel => exact ⟨_, course.cancel⟩
  | stop turns => exact Course.join (course.cancel.drain turns)

theorem Course.afterSteps (course : Course world period events poller) (steps : List PollerStep) :
    ∃ more, Course world period (events ++ more) (poller.afterSteps world steps) := by
  induction steps generalizing events poller with
  | nil => exact course.stay
  | cons step rest ih =>
      obtain ⟨first, onward⟩ := course.perform step
      exact Course.join (ih onward)

end Poller

end NetAudio
