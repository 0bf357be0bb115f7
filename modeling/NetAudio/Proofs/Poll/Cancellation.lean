import NetAudio.Proofs.Poll.Pace

/-!
# Fetches after a cancellation

A poller that has been cancelled closes as soon as no fetch runs, with one exception: if its next tick
is overdue by then, it may see the tick before the cancellation, and fetch once more.  So the fetches
that start after a cancellation follow each other without a break, and each of them is the fault of one
that lasted past the tick after it.  Where the next tick is not overdue, or the cancellation is seen
first, no fetch starts any more and only the one that runs may still bring a value.
-/

set_option autoImplicit false

namespace NetAudio.Poller

variable {α : Type} {world : World α} {period pace : Nat} {events past : List (PollEvent α)}
  {poller after : Poller α} {time begun : Nat}

/-- The tick of a fetch is overdue once the poller, cancelled at `time`, is free to see either, and it
is seen before the cancellation. -/
def Contested (pace : Nat) (world : World α) (time n : Nat) : Prop :=
  dueOf pace world.fetch n ≤ max time (idleFrom pace world.fetch n) ∧ world.ticksFirst n = true

/-- A poller that was cancelled at `time`, after `begun` fetches had started. -/
structure Winding (pace : Nat) (world : World α) (begun time : Nat) (poller : Poller α) : Prop where
  asked : poller.cancelled = true
  since : time ≤ poller.now
  begun_le : begun ≤ poller.fetches
  contested : ∀ n, begun ≤ n → n < poller.fetches → Contested pace world time n
  /-- No time passes while such a poller waits. -/
  atOnce : poller.phase = .waiting → poller.now = max time (idleFrom pace world.fetch poller.fetches)
  closed : poller.phase = .ended → ¬ Contested pace world time poller.fetches

theorem Winding.goesOn_iff (winding : Winding pace world begun time poller)
    (accounted : Accounted pace world events poller) (waits : poller.phase = .waiting) :
    GoesOn world poller ↔ Contested pace world time poller.fetches := by
  rw [GoesOn, Contested, ← accounted.due, ← winding.atOnce waits]
  exact ⟨fun goesOn => goesOn winding.asked, fun contested _ => contested⟩

theorem Winding.move {event? : Option (PollEvent α)} (winding : Winding pace world begun time poller)
    (accounted : Accounted pace world events poller) (move : Move world poller event? after) :
    Winding pace world begun time after := by
  cases move with
  | begin waits goesOn =>
      have contested := (winding.goesOn_iff accounted waits).mp goesOn
      exact {
        asked := winding.asked
        since := Nat.le_trans winding.since (Nat.le_max_left _ _)
        begun_le := Nat.le_succ_of_le winding.begun_le
        contested := by
          intro n later started
          rcases Nat.lt_succ_iff_lt_or_eq.mp started with earlier | rfl
          · exact winding.contested n later earlier
          · exact contested
        atOnce := by
          intro waits
          cases waits
        closed := by
          intro ended
          cases ended }
  | finish finish result running =>
      have standing := accounted.standing
      rw [Standing, running] at standing
      obtain ⟨n, number, ended, -, -, still⟩ := standing
      have late : time ≤ finish := Nat.le_trans winding.since still
      exact {
        asked := winding.asked
        since := late
        begun_le := winding.begun_le
        contested := winding.contested
        atOnce := by
          intro _
          show finish = max time (idleFrom pace world.fetch poller.fetches)
          rw [number, idleFrom, ← ended, Nat.max_eq_right late]
        closed := by
          intro ended
          cases ended }
  | close waits closes =>
      exact {
        asked := winding.asked
        since := winding.since
        begun_le := winding.begun_le
        contested := winding.contested
        atOnce := by
          intro waits
          cases waits
        closed := fun _ contested => closes ((winding.goesOn_iff accounted waits).mpr contested) }
  | cancel => exact { winding with asked := rfl }
  | pass moment later quiet =>
      exact {
        asked := winding.asked
        since := Nat.le_trans winding.since later
        begun_le := winding.begun_le
        contested := winding.contested
        atOnce := by
          intro waits
          change poller.phase = .waiting at waits
          have still := (le_tick_of_quiet waits later quiet).2 winding.asked
          exact still.trans (winding.atOnce waits)
        closed := winding.closed }

theorem Accounted.winding (accounted : Accounted pace world events poller)
    (first : ∀ earlier, .cancelled earlier ∉ events) :
    Winding pace world (events.filterMap PollEvent.start?).length poller.now poller.cancel where
  asked := rfl
  since := Nat.le_refl _
  begun_le := by
    rw [accounted.started, List.length_map, List.length_range]
    exact Nat.le_refl _
  contested := by
    intro n later started
    rw [accounted.started, List.length_map, List.length_range] at later
    exact absurd started (Nat.not_lt.mpr later)
  atOnce := by
    intro (waits : poller.phase = .waiting)
    have standing := accounted.standing
    rw [Standing, waits] at standing
    exact (Nat.max_eq_left standing.1).symm
  closed := by
    intro (ended : poller.phase = .ended)
    have standing := accounted.standing
    rw [Standing, ended] at standing
    obtain ⟨earlier, member⟩ := accounted.asked.mp standing.1
    exact absurd member (first earlier)

/-! ## Since an event -/

/-- What holds after an event, and is kept from then on, holds. -/
theorem Course.since {event : PollEvent α} {rest : List (PollEvent α)}
    (course : Course world period events poller) (Holds : Poller α → Prop)
    (parts : events = past ++ event :: rest)
    (arrives : ∀ earlier next, Course world period past earlier →
      Move world earlier (some event) next → Holds next)
    (keeps : ∀ events earlier event? next, Course world period events earlier → Holds earlier →
      Move world earlier event? next → Holds next) : Holds poller := by
  induction course generalizing rest with
  | start => simp at parts
  | @move events poller after event? course move ih =>
      cases event? with
      | none =>
          rw [Option.toList_none, List.append_nil] at parts
          exact keeps _ _ _ _ course (ih parts) move
      | some last =>
          rw [Option.toList_some] at parts
          -- The last event is the one in question, or it is one of the rest.
          rcases List.eq_nil_or_concat rest with rfl | ⟨front, final, rfl⟩
          · obtain ⟨rfl, same⟩ := List.append_inj' parts rfl
            cases same
            exact arrives _ _ course move
          · rw [List.concat_eq_append, ← List.cons_append, ← List.append_assoc] at parts
            exact keeps _ _ _ _ course (ih (List.append_inj' parts rfl).1) move

theorem Course.before {event : PollEvent α} {rest : List (PollEvent α)}
    (course : Course world period (past ++ event :: rest) poller) :
    ∃ earlier, Course world period past earlier :=
  course.since (fun _ => ∃ earlier, Course world period past earlier) rfl
    (fun earlier _ reached _ => ⟨earlier, reached⟩) (fun _ _ _ _ _ known _ => known)

section Cancelled
variable {rest : List (PollEvent α)}

theorem Course.winding (course : Course world period (past ++ .cancelled time :: rest) poller)
    (first : ∀ earlier, .cancelled earlier ∉ past) :
    Winding (max period minPeriod) world (past.filterMap PollEvent.start?).length time poller := by
  apply course.since _ rfl
  · intro earlier next reached move
    cases move
    exact (course_accounted reached).winding first
  · intro events earlier event? next reached winding move
    exact winding.move (course_accounted reached) move

/-- What is counted after some of a range is the rest of the range. -/
theorem rest_of_range {β : Type} {f : Nat → β} {first count : Nat} {tail : List β} (le : first ≤ count)
    (parts : (List.range count).map f = (List.range first).map f ++ tail) :
    tail = (List.range' first (count - first)).map f := by
  have whole : List.range count = List.range first ++ List.range' first (count - first) := by
    have joined := @List.range'_append_1 0 first (count - first)
    rw [Nat.zero_add, Nat.add_sub_cancel' le] at joined
    rw [List.range_eq_range', List.range_eq_range', joined]
  rw [whole, List.map_append] at parts
  exact (List.append_cancel_left parts).symm

/-- A value lands when a fetch ends, so it cannot land more often than fetches end. -/
theorem landings_le (events : List (PollEvent α)) :
    (events.filterMap PollEvent.landing?).length ≤ (events.filterMap PollEvent.finish?).length := by
  have told : PollEvent.landing? = fun event : PollEvent α =>
      (PollEvent.finish? event).bind fun (time, result) => result.map fun value => ⟨value, time⟩ := by
    funext event
    cases event with
    | ended time result => cases result <;> rfl
    | _ => rfl
  rw [told, ← List.filterMap_filterMap]
  exact List.length_filterMap_le _ _

structure EndsAfter (pace : Nat) (world : World α) (begun time : Nat) (rest : List (PollEvent α))
    (poller : Poller α) : Prop where
  started : rest.filterMap PollEvent.start? =
    (List.range' begun (poller.fetches - begun)).map (startOf pace world.fetch)
  contested : ∀ n, begun ≤ n → n < poller.fetches → Contested pace world time n
  /-- A fetch that starts later than the cancellation starts when the one before it ends, which has
  lasted past the tick. -/
  overdue : ∀ n, begun ≤ n → n < poller.fetches → time < startOf pace world.fetch n →
    ∃ last, n = last + 1 ∧ dueOf pace world.fetch n ≤ endOf pace world.fetch last ∧
      startOf pace world.fetch n = endOf pace world.fetch last
  closed : poller.phase = .ended → ¬ Contested pace world time poller.fetches
  /-- Unless it is contested, no fetch starts, and only the one that runs may bring a value. -/
  quiet : ¬ Contested pace world time begun →
    rest.filterMap PollEvent.start? = [] ∧ (rest.filterMap PollEvent.landing?).length ≤ 1 ∧
      (rest.filterMap PollEvent.finish? = [] ∨ ∃ running, begun = running + 1 ∧
        rest.filterMap PollEvent.finish? =
          [(endOf pace world.fetch running, (world.fetch running).result)])

theorem Winding.overdue (winding : Winding pace world begun time poller) {n : Nat}
    (later : begun ≤ n) (started : n < poller.fetches) (strictly : time < startOf pace world.fetch n) :
    ∃ last, n = last + 1 ∧ dueOf pace world.fetch n ≤ endOf pace world.fetch last ∧
      startOf pace world.fetch n = endOf pace world.fetch last := by
  have due := (winding.contested n later started).1
  have start := startOf_eq_max pace world.fetch n
  cases n with
  | zero => exact absurd strictly (Nat.not_lt_zero time)
  | succ last =>
      rw [idleFrom] at due start
      exact ⟨last, rfl, by omega, by omega⟩

/-- Where no fetch starts after an event, the one that runs may still end. -/
theorem finished_of_no_start {event : PollEvent α} {earlier : Poller α}
    (accounted : Accounted pace world (past ++ event :: rest) poller)
    (known : Accounted pace world past earlier) (silent : PollEvent.finish? event = none)
    (still : poller.fetches = earlier.fetches) :
    rest.filterMap PollEvent.finish? = [] ∨ ∃ running, earlier.fetches = running + 1 ∧
      rest.filterMap PollEvent.finish? =
        [(endOf pace world.fetch running, (world.fetch running).result)] := by
  have le : earlier.completed ≤ poller.completed := by
    have shorter := congrArg List.length accounted.finished
    rw [List.filterMap_append, known.finished] at shorter
    simp only [List.length_append, List.length_map, List.length_range] at shorter
    omega
  have finished : rest.filterMap PollEvent.finish? =
      (List.range' earlier.completed (poller.completed - earlier.completed)).map fun n =>
        (endOf pace world.fetch n, (world.fetch n).result) := by
    apply rest_of_range le
    rw [← accounted.finished, ← known.finished, List.filterMap_append,
      List.filterMap_cons_none silent]
  have ran := known.alone
  have runs := accounted.alone
  by_cases same : poller.completed = earlier.completed
  · left
    rw [finished, same, Nat.sub_self]
    rfl
  · right
    refine ⟨earlier.completed, by omega, ?_⟩
    have one : poller.completed - earlier.completed = 1 := by omega
    rw [finished, one]
    rfl

/-- After a cancellation fetches only start where ticks are overdue and seen first; else none starts
any more, and the snapshot changes once at most. -/
theorem cancelled_pollers_start_overdue_fetches
    (course : Course world period (past ++ .cancelled time :: rest) poller)
    (first : ∀ earlier, .cancelled earlier ∉ past) :
    EndsAfter (max period minPeriod) world (past.filterMap PollEvent.start?).length time rest
      poller := by
  have accounted := course_accounted course
  obtain ⟨earlier, reached⟩ := course.before
  have known := course_accounted reached
  have winding := course.winding first
  have counted : (past.filterMap PollEvent.start?).length = earlier.fetches := by
    rw [known.started, List.length_map, List.length_range]
  rw [counted] at winding ⊢
  have started : rest.filterMap PollEvent.start? =
      (List.range' earlier.fetches (poller.fetches - earlier.fetches)).map
        (startOf (max period minPeriod) world.fetch) := by
    apply rest_of_range winding.begun_le
    rw [← accounted.started, ← known.started, List.filterMap_append]
    rfl
  refine ⟨started, winding.contested, fun n => winding.overdue, winding.closed, ?_⟩
  intro uncontested
  have still : poller.fetches = earlier.fetches := by
    by_contra other
    have more : earlier.fetches < poller.fetches :=
      Nat.lt_of_le_of_ne winding.begun_le (Ne.symm other)
    exact uncontested (winding.contested _ (Nat.le_refl _) more)
  have ended := finished_of_no_start accounted known rfl still
  refine ⟨?_, ?_, ended⟩
  · rw [started, still, Nat.sub_self]
    rfl
  · apply Nat.le_trans (landings_le rest)
    rcases ended with nothing | ⟨running, -, one⟩
    · rw [nothing]
      exact Nat.zero_le 1
    · rw [one]
      exact Nat.le_refl 1

end Cancelled

/-- A tick is overdue after the first fetch, and the cancellation is seen first: no other fetch starts. -/
example :
    let world : World Nat := ⟨fun n => if n = 0 then ⟨50, some 0⟩ else ⟨5, some n⟩, fun _ => false⟩
    let closed := ((start 20).sleep world 25).cancel.sleep world 30
    closed.phase = .ended ∧ closed.fetches = 1 ∧ closed.latest = some ⟨0, 50⟩ := by
  decide

def overdueWorld : World Nat where
  fetch n := if n = 0 then ⟨50, some 0⟩ else ⟨5, some n⟩
  ticksFirst _ := true

/-- Cancelled after 25 milliseconds, the poller starts a second fetch after 50, and its snapshot
changes twice. -/
theorem overdue_tick_outruns_cancellation :
    let cancelled := ((start 20).sleep overdueWorld 25).cancel
    cancelled.now = 25 ∧ cancelled.fetches = 1 ∧ cancelled.latest = none ∧
      (cancelled.sleep overdueWorld 25).phase = .fetching 55 (some 1) ∧
      (cancelled.sleep overdueWorld 25).fetches = 2 ∧
      (cancelled.sleep overdueWorld 25).latest = some ⟨0, 50⟩ ∧
      (cancelled.sleep overdueWorld 30).latest = some ⟨1, 55⟩ := by
  decide

/-- The same run with what it leaves behind; after the second fetch the poller closes. -/
theorem overdue_fetch_ends_soon :
    let rest := [.ended 50 (some 0), .began 50, .ended 55 (some 1), .closed 55]
    ∃ poller, Course overdueWorld 20 ([.began 0] ++ .cancelled 25 :: rest) poller ∧
      (∀ earlier, .cancelled earlier ∉ [PollEvent.began (α := Nat) 0]) ∧
      EndsAfter (max 20 minPeriod) overdueWorld 1 25 rest poller ∧ poller.phase = .ended := by
  intro rest
  have begun : Course overdueWorld 20 [.began 0] _ := Course.move .start (.begin rfl nofun)
  have passed : Course overdueWorld 20 [.began 0] _ :=
    begun.move (.pass 25 (by decide) (by decide))
  have landed : Course overdueWorld 20 [.began 0, .cancelled 25, .ended 50 (some 0)] _ :=
    passed.cancel.move (.finish 50 (some 0) rfl)
  have again : Course overdueWorld 20 [.began 0, .cancelled 25, .ended 50 (some 0), .began 50] _ :=
    landed.move (.begin rfl (fun _ => by decide))
  have late := again.move (.finish 55 (some 1) rfl)
  have closed : Course overdueWorld 20 ([.began 0] ++ .cancelled 25 :: rest) _ :=
    late.move (.close rfl (fun goesOn => absurd (goesOn rfl).1 (by decide)))
  have first : ∀ earlier, .cancelled earlier ∉ [PollEvent.began (α := Nat) 0] := by
    intro earlier member
    cases List.mem_singleton.mp member
  exact ⟨_, closed, first, cancelled_pollers_start_overdue_fetches closed first, rfl⟩

end NetAudio.Poller
