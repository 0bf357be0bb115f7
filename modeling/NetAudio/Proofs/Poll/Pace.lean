import NetAudio.Proofs.Poll.Owner

/-!
# Snapshots and pace

At every instant a poller shows the value of the fetch that succeeded last, whatever failed since and
whoever has cancelled it.  Its fetches start as the schedule says, one after the other, none before its
time and, until the poller closes, none after it.
-/

set_option autoImplicit false

namespace NetAudio.Poller

variable {α : Type} {world : World α} {period pace : Nat} {events : List (PollEvent α)}
  {poller : Poller α}

/-- What holds of a poller at an instant of its course.  `pace` is the period that it runs with. -/
structure KeepsPace (pace : Nat) (world : World α) (events : List (PollEvent α))
    (poller : Poller α) : Prop where
  /-- The value that landed last, if one has. -/
  latest : poller.latest = (events.filterMap PollEvent.landing?).getLast?
  started : events.filterMap PollEvent.start? =
    (List.range poller.fetches).map (startOf pace world.fetch)
  finished : events.filterMap PollEvent.finish? =
    (List.range poller.completed).map fun n => (endOf pace world.fetch n, (world.fetch n).result)
  /-- At most one fetch runs, and it is not yet over. -/
  alone : poller.fetches = poller.completed ∨
    poller.fetches = poller.completed + 1 ∧
      startOf pace world.fetch poller.completed ≤ poller.now ∧
      poller.now ≤ endOf pace world.fetch poller.completed
  elapsed : ∀ n, n < poller.completed → endOf pace world.fetch n ≤ poller.now
  /-- The next fetch has not been missed. -/
  prompt : poller.phase = .ended ∨ poller.now ≤ startOf pace world.fetch poller.fetches
  /-- A poller closes only if it is cancelled. -/
  closed : poller.phase = .ended → ∃ time, .cancelled time ∈ events

theorem Accounted.alone (accounted : Accounted pace world events poller) :
    poller.fetches = poller.completed ∨
      poller.fetches = poller.completed + 1 ∧
        startOf pace world.fetch poller.completed ≤ poller.now ∧
        poller.now ≤ endOf pace world.fetch poller.completed := by
  have standing := accounted.standing
  rw [Standing] at standing
  rw [completed]
  cases phase : poller.phase with
  | waiting => exact .inl rfl
  | ended => exact .inl rfl
  | fetching finish result =>
      rw [phase] at standing
      obtain ⟨n, number, rfl, -, since, running⟩ := standing
      rw [number]
      exact .inr ⟨rfl, since, running⟩

theorem Accounted.elapsed (accounted : Accounted pace world events poller) (n : Nat)
    (before : n < poller.completed) : endOf pace world.fetch n ≤ poller.now := by
  have standing := accounted.standing
  rw [Standing] at standing
  rw [completed] at before
  cases phase : poller.phase with
  | waiting =>
      rw [phase] at standing before
      exact Nat.le_trans (endOf_le_of_lt pace world.fetch before) standing.1
  | ended =>
      rw [phase] at standing before
      exact Nat.le_trans (endOf_le_of_lt pace world.fetch before) standing.2
  | fetching finish result =>
      rw [phase] at standing before
      obtain ⟨running, number, -, -, since, -⟩ := standing
      rw [number, Nat.add_sub_cancel] at before
      have idle := idleFrom_le_startOf pace world.fetch running
      exact Nat.le_trans (endOf_le_of_lt pace world.fetch before) (Nat.le_trans idle since)

theorem Accounted.prompt (accounted : Accounted pace world events poller) :
    poller.phase = .ended ∨ poller.now ≤ startOf pace world.fetch poller.fetches := by
  have standing := accounted.standing
  rw [Standing] at standing
  cases phase : poller.phase with
  | ended => exact .inl rfl
  | waiting =>
      rw [phase] at standing
      exact .inr standing.2
  | fetching finish result =>
      rw [phase] at standing
      obtain ⟨n, number, rfl, -, -, running⟩ := standing
      rw [number]
      exact .inr (Nat.le_trans running (endOf_le_startOf pace world.fetch n))

theorem Accounted.closed (accounted : Accounted pace world events poller)
    (ended : poller.phase = .ended) : ∃ time, .cancelled time ∈ events := by
  have standing := accounted.standing
  rw [Standing, ended] at standing
  exact accounted.asked.mp standing.1

theorem Accounted.keepsPace (accounted : Accounted pace world events poller) :
    KeepsPace pace world events poller where
  latest := accounted.latest
  started := accounted.started
  finished := accounted.finished
  alone := accounted.alone
  elapsed := accounted.elapsed
  prompt := accounted.prompt
  closed := accounted.closed

/-- At every instant a poller shows what was fetched last and keeps its pace; and all that its owner
can do leads to such an instant. -/
theorem snapshots_keep_pace (world : World α) (period : Nat) :
    Paced (max period minPeriod) world.fetch ∧
      (∀ events poller, Course world period events poller →
        KeepsPace (max period minPeriod) world events poller) ∧
      ∀ steps, ∃ events, Course world period events ((start period).afterSteps world steps) := by
  refine ⟨paced _ _, ?_, ?_⟩
  · intro events poller course
    exact (course_accounted course).keepsPace
  · intro steps
    obtain ⟨events, course⟩ := (Course.start : Course world period [] (start period)).afterSteps steps
    exact ⟨[] ++ events, course⟩

def slowWorld : World Nat where
  fetch n := if n = 0 then ⟨35, some 7⟩ else ⟨0, none⟩
  ticksFirst _ := false

/-- The value stays through failures and the cancellation; the late fetch is made up for once. -/
theorem slow_fetch_keeps_pace :
    ∃ events, ∃ poller : Poller Nat,
      poller = (start 0).afterSteps slowWorld [.sleep 50, .cancel, .sleep 20] ∧
      Course slowWorld 0 events poller ∧ KeepsPace (max 0 minPeriod) slowWorld events poller ∧
      poller.latest = some ⟨7, 35⟩ ∧ poller.fetches = 3 ∧ poller.phase = .ended ∧
      (List.range 3).map (startOf (max 0 minPeriod) slowWorld.fetch) = [0, 35, 45] := by
  obtain ⟨-, keeps, reached⟩ := snapshots_keep_pace slowWorld 0
  obtain ⟨events, course⟩ := reached [.sleep 50, .cancel, .sleep 20]
  exact ⟨events, _, rfl, course, keeps events _ course, by decide, by decide, by decide, by decide⟩

end NetAudio.Poller
