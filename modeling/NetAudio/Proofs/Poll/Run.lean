import Mathlib.Tactic.ByContra
import Mathlib.Tactic.Push
import NetAudio.Proofs.Poll.Schedule

/-!
# Runs of a poller

What can happen to a poller at any instant: its fetches begin and end, its owner cancels it, it closes,
and time passes up to what happens next.  A `Course` puts these moves together to anything that a
poller may live through, with a record of it; `course_accounted` says what holds at each of its
instants.
-/

set_option autoImplicit false

namespace NetAudio

inductive PollEvent (α : Type) where
  | began (time : Nat)
  | ended (time : Nat) (result : Option α)
  /-- Its owner asks it to end: cancels it, stops it or drops it. -/
  | cancelled (time : Nat)
  | closed (time : Nat)
  deriving DecidableEq, Repr

namespace PollEvent
variable {α : Type}

def start? : PollEvent α → Option Nat
  | began time => some time
  | _ => none

def finish? : PollEvent α → Option (Nat × Option α)
  | ended time result => some (time, result)
  | _ => none

def landing? : PollEvent α → Option (Snapshot Nat α)
  | ended time (some value) => some ⟨value, time⟩
  | _ => none

theorem filterMap_concat {β : Type} (read : PollEvent α → Option β) (events : List (PollEvent α))
    (event : PollEvent α) :
    (events ++ [event]).filterMap read = events.filterMap read ++ (read event).toList := by
  rw [List.filterMap_append]
  cases told : read event with
  | none => rw [List.filterMap_cons_none told, List.filterMap_nil, Option.toList_none]
  | some value => rw [List.filterMap_cons_some told, List.filterMap_nil, Option.toList_some]

/-- An event that a reading says nothing about leaves what was read as it is. -/
theorem filterMap_concat_of_none {β : Type} {read : PollEvent α → Option β} {event : PollEvent α}
    (silent : read event = none) (events : List (PollEvent α)) :
    (events ++ [event]).filterMap read = events.filterMap read := by
  rw [filterMap_concat, silent, Option.toList_none, List.append_nil]

end PollEvent

namespace Poller
variable {α : Type} {world : World α} {poller after : Poller α}

/-! ## Moves -/

/-- Whether a poller that waits takes its tick, at once if it has been cancelled. -/
def GoesOn (world : World α) (poller : Poller α) : Prop :=
  poller.cancelled = true → poller.deadline ≤ poller.now ∧ world.ticksFirst poller.fetches = true

theorem step?_of_fetching {finish : Nat} {result : Option α}
    (running : poller.phase = .fetching finish result) (horizon : Nat) :
    poller.step? world horizon =
      if finish ≤ horizon then some (poller.endFetch finish result) else none := by
  rw [step?, running]

theorem step?_of_goesOn (waits : poller.phase = .waiting) (goesOn : GoesOn world poller)
    (horizon : Nat) :
    poller.step? world horizon =
      if max poller.now poller.deadline ≤ horizon then
        some (poller.beginFetch (world.fetch poller.fetches) (max poller.now poller.deadline))
      else none := by
  have unblocked : (poller.cancelled && !(decide (max poller.now poller.deadline = poller.now) &&
      world.ticksFirst poller.fetches)) = false := by
    cases asked : poller.cancelled with
    | false => rfl
    | true =>
        obtain ⟨due, first⟩ := goesOn asked
        rw [Nat.max_eq_left due, first]
        simp
  rw [step?, waits]
  simp only [unblocked, Bool.false_eq_true, if_false]

theorem step?_of_not_goesOn (waits : poller.phase = .waiting) (closes : ¬ GoesOn world poller)
    (horizon : Nat) : poller.step? world horizon = some { poller with phase := .ended } := by
  have shut : (poller.cancelled && !(decide (max poller.now poller.deadline = poller.now) &&
      world.ticksFirst poller.fetches)) = true := by
    unfold GoesOn at closes
    push Not at closes
    obtain ⟨asked, first⟩ := closes
    rw [asked, Bool.true_and, Bool.not_eq_true', Bool.and_eq_false_imp, decide_eq_true_eq]
    intro due
    have passed : poller.deadline ≤ poller.now := by omega
    exact Bool.eq_false_iff.mpr (first passed)
  rw [step?, waits]
  simp only [shut, if_true]

/-- Everything that can happen to a poller, with what there is to tell about it. -/
inductive Move (world : World α) (poller : Poller α) : Option (PollEvent α) → Poller α → Prop where
  | begin (waits : poller.phase = .waiting) (goesOn : GoesOn world poller) :
      Move world poller (some (.began (max poller.now poller.deadline)))
        (poller.beginFetch (world.fetch poller.fetches) (max poller.now poller.deadline))
  | finish (time : Nat) (result : Option α) (running : poller.phase = .fetching time result) :
      Move world poller (some (.ended time result)) (poller.endFetch time result)
  | close (waits : poller.phase = .waiting) (closes : ¬ GoesOn world poller) :
      Move world poller (some (.closed poller.now)) { poller with phase := .ended }
  | cancel : Move world poller (some (.cancelled poller.now)) poller.cancel
  /-- Time may pass up to what happens next. -/
  | pass (time : Nat) (later : poller.now ≤ time)
      (quiet : ∀ earlier, earlier < time → poller.step? world earlier = none) :
      Move world poller none { poller with now := time }

inductive Next (world : World α) (poller : Poller α) (horizon : Nat) : Poller α → Prop where
  | finish (time : Nat) (result : Option α) (running : poller.phase = .fetching time result)
      (within : time ≤ horizon) : Next world poller horizon (poller.endFetch time result)
  | begin (waits : poller.phase = .waiting) (goesOn : GoesOn world poller)
      (within : max poller.now poller.deadline ≤ horizon) :
      Next world poller horizon
        (poller.beginFetch (world.fetch poller.fetches) (max poller.now poller.deadline))
  | close (waits : poller.phase = .waiting) (closes : ¬ GoesOn world poller) :
      Next world poller horizon { poller with phase := .ended }

theorem step?_eq_some_iff (horizon : Nat) :
    poller.step? world horizon = some after ↔ Next world poller horizon after := by
  constructor
  · intro found
    cases phase : poller.phase with
    | ended => simp [step?, phase] at found
    | fetching time result =>
        rw [step?_of_fetching phase] at found
        split at found
        · next within =>
            cases found
            exact .finish time result phase within
        · cases found
    | waiting =>
        by_cases goesOn : GoesOn world poller
        · rw [step?_of_goesOn phase goesOn] at found
          split at found
          · next within =>
              cases found
              exact .begin phase goesOn within
          · cases found
        · rw [step?_of_not_goesOn phase goesOn] at found
          cases found
          exact .close phase goesOn
  · intro next
    cases next with
    | finish time result running within => rw [step?_of_fetching running, if_pos within]
    | begin waits goesOn within => rw [step?_of_goesOn waits goesOn, if_pos within]
    | close waits closes => rw [step?_of_not_goesOn waits closes]

theorem Next.moves {horizon : Nat} (next : Next world poller horizon after) :
    ∃ event, Move world poller (some event) after := by
  cases next with
  | finish time result running within => exact ⟨_, .finish time result running⟩
  | begin waits goesOn within => exact ⟨_, .begin waits goesOn⟩
  | close waits closes => exact ⟨_, .close waits closes⟩

/-- What happens up to some moment happens up to any later one. -/
theorem step?_of_le {horizon later : Nat} (le : horizon ≤ later)
    (found : poller.step? world horizon = some after) : poller.step? world later = some after := by
  rw [step?_eq_some_iff] at found ⊢
  cases found with
  | finish time result running within => exact .finish time result running (Nat.le_trans within le)
  | begin waits goesOn within => exact .begin waits goesOn (Nat.le_trans within le)
  | close waits closes => exact .close waits closes

/-- Where nothing happens before some time, what happens next is not before it. -/
theorem Next.le_of_quiet {time horizon : Nat} (next : Next world poller horizon after)
    (quiet : ∀ earlier, earlier < time → poller.step? world earlier = none) : time ≤ horizon := by
  by_contra past
  have still := quiet horizon (Nat.lt_of_not_le past)
  rw [(step?_eq_some_iff horizon).mpr next] at still
  cases still

theorem le_finish_of_quiet {time finish : Nat} {result : Option α}
    (running : poller.phase = .fetching finish result)
    (quiet : ∀ earlier, earlier < time → poller.step? world earlier = none) : time ≤ finish := by
  have next : Next world poller finish (poller.endFetch finish result) :=
    .finish finish result running (Nat.le_refl finish)
  exact next.le_of_quiet quiet

/-- A poller that waits and has been cancelled does something before time passes. -/
theorem le_tick_of_quiet {time : Nat} (waits : poller.phase = .waiting) (later : poller.now ≤ time)
    (quiet : ∀ earlier, earlier < time → poller.step? world earlier = none) :
    time ≤ max poller.now poller.deadline ∧ (poller.cancelled = true → time = poller.now) := by
  by_cases goesOn : GoesOn world poller
  · have bound := (Next.begin waits goesOn (Nat.le_refl _)).le_of_quiet quiet
    refine ⟨bound, ?_⟩
    intro asked
    have due := (goesOn asked).1
    omega
  · have closing : Next world poller 0 { poller with phase := .ended } := .close waits goesOn
    have start := closing.le_of_quiet quiet
    omega

/-! ## Courses -/

inductive Course (world : World α) (period : Nat) : List (PollEvent α) → Poller α → Prop where
  | start : Course world period [] (start period)
  | move {events : List (PollEvent α)} {poller after : Poller α} {event? : Option (PollEvent α)}
      (course : Course world period events poller) (move : Move world poller event? after) :
      Course world period (events ++ event?.toList) after

def completed (poller : Poller α) : Nat :=
  match poller.phase with
  | .fetching _ _ => poller.fetches - 1
  | .waiting | .ended => poller.fetches

def Standing (pace : Nat) (world : World α) (poller : Poller α) : Prop :=
  match poller.phase with
  | .fetching finish result =>
    ∃ n, poller.fetches = n + 1 ∧ finish = endOf pace world.fetch n ∧
      result = (world.fetch n).result ∧ startOf pace world.fetch n ≤ poller.now ∧
      poller.now ≤ finish
  | .waiting =>
    idleFrom pace world.fetch poller.fetches ≤ poller.now ∧
      poller.now ≤ startOf pace world.fetch poller.fetches
  | .ended => poller.cancelled = true ∧ idleFrom pace world.fetch poller.fetches ≤ poller.now

/-- The fetches of a poller are those of the schedule, in its order, and each has ended once its time
has come; the value that is kept is the one that landed last. -/
structure Accounted (pace : Nat) (world : World α) (events : List (PollEvent α))
    (poller : Poller α) : Prop where
  ownPace : poller.period = pace
  due : poller.deadline = dueOf pace world.fetch poller.fetches
  started : events.filterMap PollEvent.start? =
    (List.range poller.fetches).map (startOf pace world.fetch)
  finished : events.filterMap PollEvent.finish? =
    (List.range poller.completed).map fun n => (endOf pace world.fetch n, (world.fetch n).result)
  latest : poller.latest = (events.filterMap PollEvent.landing?).getLast?
  asked : poller.cancelled = true ↔ ∃ time, .cancelled time ∈ events
  standing : Standing pace world poller

section Moves
variable {pace : Nat} {events : List (PollEvent α)}

theorem Accounted.tick (accounted : Accounted pace world events poller)
    (waits : poller.phase = .waiting) :
    max poller.now poller.deadline = startOf pace world.fetch poller.fetches := by
  have standing := accounted.standing
  rw [Standing, waits] at standing
  have due := accounted.due
  have start := startOf_eq_max pace world.fetch poller.fetches
  omega

theorem Accounted.begin (accounted : Accounted pace world events poller)
    (waits : poller.phase = .waiting) :
    Accounted pace world (events ++ [.began (max poller.now poller.deadline)])
      (poller.beginFetch (world.fetch poller.fetches) (max poller.now poller.deadline)) := by
  rw [accounted.tick waits]
  have completed : poller.completed = poller.fetches := by rw [completed, waits]
  exact {
    ownPace := accounted.ownPace
    due := by
      show nextDeadline poller.period poller.deadline _ = _
      rw [accounted.ownPace, accounted.due]
      rfl
    started := by
      rw [PollEvent.filterMap_concat, accounted.started]
      show _ = (List.range (poller.fetches + 1)).map _
      rw [List.range_succ, List.map_append]
      rfl
    finished := by
      rw [PollEvent.filterMap_concat_of_none rfl, accounted.finished, completed]
      rfl
    latest := by
      rw [PollEvent.filterMap_concat_of_none rfl]
      exact accounted.latest
    asked := by simpa [beginFetch] using accounted.asked
    standing := ⟨poller.fetches, rfl, rfl, rfl, Nat.le_refl _, Nat.le_add_right _ _⟩ }

theorem Accounted.finish (accounted : Accounted pace world events poller) {time : Nat}
    {result : Option α} (running : poller.phase = .fetching time result) :
    Accounted pace world (events ++ [.ended time result]) (poller.endFetch time result) := by
  have standing := accounted.standing
  rw [Standing, running] at standing
  obtain ⟨n, number, finish, brought, -, -⟩ := standing
  have completed : poller.completed = n := by
    rw [completed, running, number]
    rfl
  exact {
    ownPace := accounted.ownPace
    due := accounted.due
    started := by
      rw [PollEvent.filterMap_concat_of_none rfl]
      exact accounted.started
    finished := by
      rw [PollEvent.filterMap_concat, accounted.finished, completed]
      show _ = (List.range poller.fetches).map _
      rw [number, List.range_succ, List.map_append, finish, brought]
      rfl
    latest := by
      cases result with
      | none =>
          rw [PollEvent.filterMap_concat_of_none rfl]
          exact accounted.latest
      | some value =>
          rw [PollEvent.filterMap_concat]
          exact List.getLast?_concat.symm
    asked := by simpa [endFetch] using accounted.asked
    standing := by
      show idleFrom _ _ poller.fetches ≤ time ∧ time ≤ startOf _ _ poller.fetches
      rw [number, finish]
      exact ⟨Nat.le_refl _, endOf_le_startOf pace world.fetch n⟩ }

theorem Accounted.close (accounted : Accounted pace world events poller)
    (waits : poller.phase = .waiting) (closes : ¬ GoesOn world poller) :
    Accounted pace world (events ++ [.closed poller.now]) { poller with phase := .ended } := by
  have completed : poller.completed = poller.fetches := by rw [completed, waits]
  exact {
    ownPace := accounted.ownPace
    due := accounted.due
    started := by
      rw [PollEvent.filterMap_concat_of_none rfl]
      exact accounted.started
    finished := by
      rw [PollEvent.filterMap_concat_of_none rfl, accounted.finished, completed]
      rfl
    latest := by
      rw [PollEvent.filterMap_concat_of_none rfl]
      exact accounted.latest
    asked := by simpa using accounted.asked
    standing := by
      have standing := accounted.standing
      rw [Standing, waits] at standing
      unfold GoesOn at closes
      push Not at closes
      exact ⟨closes.1, standing.1⟩ }

theorem Accounted.cancel (accounted : Accounted pace world events poller) :
    Accounted pace world (events ++ [.cancelled poller.now]) poller.cancel where
  ownPace := accounted.ownPace
  due := accounted.due
  started := by
    rw [PollEvent.filterMap_concat_of_none rfl]
    exact accounted.started
  finished := by
    rw [PollEvent.filterMap_concat_of_none rfl]
    exact accounted.finished
  latest := by
    rw [PollEvent.filterMap_concat_of_none rfl]
    exact accounted.latest
  asked := by simp [Poller.cancel]
  standing := by
    have standing := accounted.standing
    unfold Standing at standing ⊢
    cases phase : poller.phase with
    | ended =>
        simp only [phase] at standing
        simpa [Poller.cancel, phase] using standing.2
    | _ => simpa [Poller.cancel, phase] using standing

theorem Accounted.pass (accounted : Accounted pace world events poller) {time : Nat}
    (later : poller.now ≤ time)
    (quiet : ∀ earlier, earlier < time → poller.step? world earlier = none) :
    Accounted pace world events { poller with now := time } where
  ownPace := accounted.ownPace
  due := accounted.due
  started := accounted.started
  finished := accounted.finished
  latest := accounted.latest
  asked := accounted.asked
  standing := by
    have standing := accounted.standing
    rw [Standing] at standing ⊢
    cases phase : poller.phase with
    | ended =>
        simp only [phase] at standing ⊢
        exact ⟨standing.1, Nat.le_trans standing.2 later⟩
    | fetching finish result =>
        simp only [phase] at standing ⊢
        obtain ⟨n, number, reached, brought, since, -⟩ := standing
        exact ⟨n, number, reached, brought, Nat.le_trans since later,
          le_finish_of_quiet phase quiet⟩
    | waiting =>
        have bound := (le_tick_of_quiet phase later quiet).1
        rw [accounted.tick phase] at bound
        simp only [phase] at standing ⊢
        exact ⟨Nat.le_trans standing.1 later, bound⟩

theorem Accounted.move {event? : Option (PollEvent α)}
    (accounted : Accounted pace world events poller) (move : Move world poller event? after) :
    Accounted pace world (events ++ event?.toList) after := by
  cases move with
  | begin waits goesOn => exact accounted.begin waits
  | finish time result running => exact accounted.finish running
  | close waits closes => exact accounted.close waits closes
  | cancel => exact accounted.cancel
  | pass time later quiet =>
      rw [Option.toList_none, List.append_nil]
      exact accounted.pass later quiet

end Moves

theorem start_accounted (world : World α) (period : Nat) :
    Accounted (max period minPeriod) world [] (start period) where
  ownPace := rfl
  due := rfl
  started := rfl
  finished := rfl
  latest := rfl
  asked := by simp [start]
  standing := ⟨Nat.le_refl 0, Nat.le_refl 0⟩

theorem course_accounted {period : Nat} {events : List (PollEvent α)}
    (course : Course world period events poller) :
    Accounted (max period minPeriod) world events poller := by
  induction course with
  | start => exact start_accounted world period
  | move course move ih => exact ih.move move

end Poller

end NetAudio
