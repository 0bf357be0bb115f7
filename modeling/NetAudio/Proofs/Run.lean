/-!
# Runs of a system that answers

A run carries out a list of steps on a state.  Each step leaves an event: what it met, what it
answered and what it left.  `run_induction` turns what every move preserves into what holds after
every run, of the state and of the events so far together.
-/

set_option autoImplicit false

namespace NetAudio

structure Event (Step Answer State : Type) where
  before : State
  step : Step
  answer : Answer
  after : State

section Runs
variable {Step Answer State : Type}

def eventOf (perform : Step → State → Answer × State) (step : Step) (state : State) :
    Event Step Answer State where
  before := state
  step := step
  answer := (perform step state).1
  after := (perform step state).2

def eventsOf (perform : Step → State → Answer × State) (state : State) :
    List Step → List (Event Step Answer State)
  | [] => []
  | step :: rest => eventOf perform step state :: eventsOf perform (perform step state).2 rest

def stateAfter (perform : Step → State → Answer × State) (state : State) : List Step → State
  | [] => state
  | step :: rest => stateAfter perform (perform step state).2 rest

/-- What every move preserves, with the events so far, holds after every run. -/
theorem run_induction {perform : Step → State → Answer × State}
    {Move : State → Step → Answer → State → Prop}
    (moves : ∀ step state, Move state step (perform step state).1 (perform step state).2)
    {Holds : List (Event Step Answer State) → State → Prop}
    (keeps : ∀ events before step answer after, Holds events before →
      Move before step answer after → Holds (events ++ [⟨before, step, answer, after⟩]) after)
    (steps : List Step) (earlier : List (Event Step Answer State)) (state : State)
    (holds : Holds earlier state) :
    Holds (earlier ++ eventsOf perform state steps) (stateAfter perform state steps) := by
  -- The events of the first step join the earlier ones before the rest of the run begins.
  induction steps generalizing earlier state with
  | nil => simpa [eventsOf, stateAfter] using holds
  | cons step rest ih =>
      have next := keeps earlier state step _ _ holds (moves step state)
      have later := ih _ _ next
      simpa [eventsOf, stateAfter, eventOf] using later

theorem run_invariant {perform : Step → State → Answer × State}
    {Move : State → Step → Answer → State → Prop}
    (moves : ∀ step state, Move state step (perform step state).1 (perform step state).2)
    {Holds : State → Prop}
    (keeps : ∀ before step answer after, Holds before → Move before step answer after →
      Holds after)
    (steps : List Step) (state : State) (holds : Holds state) :
    Holds (stateAfter perform state steps) :=
  @run_induction _ _ _ perform Move moves (fun _ state => Holds state)
    (fun _ before step answer after => keeps before step answer after) steps [] state holds

theorem events_of_moves {perform : Step → State → Answer × State}
    {Move : State → Step → Answer → State → Prop}
    (moves : ∀ step state, Move state step (perform step state).1 (perform step state).2)
    (steps : List Step) (state : State) :
    ∀ event ∈ eventsOf perform state steps,
      Move event.before event.step event.answer event.after := by
  induction steps generalizing state with
  | nil => simp [eventsOf]
  | cons step rest ih =>
      intro event member
      rcases List.mem_cons.mp member with rfl | later
      · exact moves step state
      · exact ih _ event later

theorem step_mem_of_event {perform : Step → State → Answer × State} {steps : List Step}
    {state : State} {event : Event Step Answer State}
    (member : event ∈ eventsOf perform state steps) : event.step ∈ steps := by
  induction steps generalizing state with
  | nil => cases member
  | cons step rest ih =>
      rcases List.mem_cons.mp member with rfl | later
      · exact .head rest
      · exact .tail step (ih later)

/-! ## The latest of the events -/

/-- What the latest event says that says anything. -/
def latest {α : Type} (read : Event Step Answer State → Option α)
    (events : List (Event Step Answer State)) : Option α :=
  (events.filterMap read).getLast?

theorem latest_concat {α : Type} (read : Event Step Answer State → Option α)
    (events : List (Event Step Answer State)) (event : Event Step Answer State) :
    latest read (events ++ [event]) = (read event).or (latest read events) := by
  rw [latest, latest, List.filterMap_append, List.getLast?_append]
  cases found : read event <;> simp [found]

theorem exists_of_latest {α : Type} {read : Event Step Answer State → Option α}
    {events : List (Event Step Answer State)} {value : α} (found : latest read events = some value) :
    ∃ event ∈ events, read event = some value :=
  List.mem_filterMap.mp (List.mem_of_getLast? found)

end Runs

end NetAudio
