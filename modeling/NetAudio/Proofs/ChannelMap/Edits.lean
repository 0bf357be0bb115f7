import Mathlib.Data.List.DropRight
import NetAudio.Proofs.ChannelMap.Lists
import NetAudio.Proofs.Run

/-!
# Runs of edits of a map

A map is resized and moved step by step; a step that fails leaves it as it was.  The length that a run
leaves is that of the last resize.  The start is the last one that was asked for, moved down as far as
the longest run since then required: a start that a long run has pushed down does not come back.
-/

set_option autoImplicit false

namespace NetAudio

inductive MapStep where
  | resize (count : Nat)
  | move (start : Nat)
  deriving DecidableEq

namespace MapStep

def change : MapStep → ChannelMap → Except CalculatorError ChannelMap
  | .resize count, map => map.resized count
  | .move start, map => map.withStart start

def perform (step : MapStep) (map : ChannelMap) : Except CalculatorError Unit × ChannelMap :=
  match step.change map with
  | .ok changed => (.ok (), changed)
  | .error cause => (.error cause, map)

end MapStep

/-! ## What one step does -/

inductive MapMove (map : ChannelMap) :
    MapStep → Except CalculatorError Unit → ChannelMap → Prop where
  | resized (count : Nat) (after : ChannelMap) (counted : ChannelMap.Countable count)
      (length : after.count = count) (start : after.start = min map.start (bankSize - count)) :
      MapMove map (.resize count) (.ok ()) after
  | uncountable (count : Nat) (beyond : ¬ ChannelMap.Countable count) :
      MapMove map (.resize count) (.error (.invalidChannelCount count)) map
  | moved (start : Nat) (after : ChannelMap) (room : start ≤ bankSize - map.count)
      (length : after.count = map.count) (target : after.start = start) :
      MapMove map (.move start) (.ok ()) after
  | outside (start : Nat) (beyond : ¬ start ≤ bankSize - map.count) :
      MapMove map (.move start) (.error (.mapOverflow start map.count bankSize)) map

theorem perform_map_moves (step : MapStep) (map : ChannelMap) :
    MapMove map step (step.perform map).1 (step.perform map).2 := by
  cases step with
  | resize count =>
      by_cases counted : ChannelMap.Countable count
      · obtain ⟨after, resized, length, start⟩ := map.resized_of_countable counted
        simp only [MapStep.perform, MapStep.change, resized]
        exact .resized count after counted length start
      · have refused := map.resized_of_uncountable counted
        simp only [MapStep.perform, MapStep.change, refused]
        exact .uncountable count counted
  | move start =>
      by_cases room : start ≤ bankSize - map.count
      · obtain ⟨after, made, length, target⟩ :=
          ChannelMap.contiguous_of_fits map.count start map.countable room
        simp only [MapStep.perform, MapStep.change, ChannelMap.withStart, made]
        exact .moved start after room length target
      · have refused := ChannelMap.contiguous_of_overflow map.count start map.countable room
        simp only [MapStep.perform, MapStep.change, ChannelMap.withStart, refused]
        exact .outside start room

/-! ## Runs -/

abbrev MapEvent := Event MapStep (Except CalculatorError Unit) ChannelMap

def MapEvent.resizedTo? (event : MapEvent) : Option Nat :=
  match event.step, event.answer with
  | .resize count, .ok _ => some count
  | _, _ => none

def MapEvent.movedTo? (event : MapEvent) : Option Nat :=
  match event.step, event.answer with
  | .move start, .ok _ => some start
  | _, _ => none

/-- The events after the last move that was made, or all of them. -/
def sinceMove (events : List MapEvent) : List MapEvent :=
  events.rtakeWhile fun event => event.movedTo?.isNone

/-- The last start that each of the resizes left room for. -/
def roomsOf (events : List MapEvent) : List Nat :=
  (events.filterMap MapEvent.resizedTo?).map (bankSize - ·)

namespace ChannelMap

def events (map : ChannelMap) (steps : List MapStep) : List MapEvent :=
  eventsOf MapStep.perform map steps

def afterRun (map : ChannelMap) (steps : List MapStep) : ChannelMap :=
  stateAfter MapStep.perform map steps

structure Follows (opened : ChannelMap) (events : List MapEvent) (map : ChannelMap) : Prop where
  count : map.count = (latest MapEvent.resizedTo? events).getD opened.count
  start : map.start =
    (roomsOf (sinceMove events)).foldl min ((latest MapEvent.movedTo? events).getD opened.start)

section Moves
variable {opened map after : ChannelMap} {events : List MapEvent} {step : MapStep}
  {answer : Except CalculatorError Unit}

theorem sinceMove_concat {event : MapEvent} (unmoved : event.movedTo? = none) :
    sinceMove (events ++ [event]) = sinceMove events ++ [event] := by
  rw [sinceMove, List.rtakeWhile_concat_pos]
  · rfl
  · rw [unmoved]
    rfl

/-- What was neither a resize nor a move that was made does not count. -/
theorem Follows.concat_of_none (follows : Follows opened events map) {event : MapEvent}
    (unresized : event.resizedTo? = none) (unmoved : event.movedTo? = none) :
    Follows opened (events ++ [event]) map where
  count := by
    rw [latest_concat, unresized]
    exact follows.count
  start := by
    rw [latest_concat, unmoved, sinceMove_concat unmoved, follows.start]
    simp [roomsOf, unresized]

theorem follows_map_move (follows : Follows opened events map)
    (move : MapMove map step answer after) :
    Follows opened (events ++ [⟨map, step, answer, after⟩]) after := by
  cases move with
  | resized count after counted length start =>
      refine { count := ?_, start := ?_ }
      · rw [latest_concat, length]
        rfl
      · rw [latest_concat, sinceMove_concat rfl, start, follows.start]
        simp [roomsOf, MapEvent.resizedTo?, MapEvent.movedTo?]
  | uncountable count beyond => exact follows.concat_of_none rfl rfl
  | moved start after room length target =>
      refine { count := ?_, start := ?_ }
      · rw [latest_concat, length]
        exact follows.count
      · have fresh : sinceMove (events ++ [⟨map, .move start, .ok (), after⟩]) = [] := by
          simp [sinceMove, MapEvent.movedTo?]
        rw [latest_concat, fresh]
        exact target
  | outside start beyond => exact follows.concat_of_none rfl rfl

theorem follows_map_afterRun (map : ChannelMap) (steps : List MapStep) :
    Follows map (map.events steps) (map.afterRun steps) :=
  run_induction perform_map_moves (fun _ _ _ _ _ => follows_map_move) steps [] map
    { count := rfl, start := rfl }

theorem answer_of_move (move : MapMove map step answer after) :
    (∀ count, step = .resize count → (answer = .ok () ↔ 1 ≤ count ∧ count ≤ 64)) ∧
      (∀ start, step = .move start → (answer = .ok () ↔ start ≤ 64 - map.count)) ∧
      (answer ≠ .ok () → after = map) := by
  cases move with
  | resized count after counted length start =>
      refine ⟨?_, nofun, fun failed => absurd rfl failed⟩
      rintro _ ⟨⟩
      exact iff_of_true rfl counted
  | uncountable count beyond =>
      refine ⟨?_, nofun, fun _ => rfl⟩
      rintro _ ⟨⟩
      exact iff_of_false nofun beyond
  | moved start after room length target =>
      refine ⟨nofun, ?_, fun failed => absurd rfl failed⟩
      rintro _ ⟨⟩
      exact iff_of_true rfl room
  | outside start beyond =>
      refine ⟨nofun, ?_, fun _ => rfl⟩
      rintro _ ⟨⟩
      exact iff_of_false nofun beyond

end Moves

/-! ## Runs of resizes -/

theorem eq_of_count_start {left right : ChannelMap} (count : left.count = right.count)
    (start : left.start = right.start) : left = right := by
  cases left
  cases right
  cases count
  cases start
  rfl

section Resizes
variable (map : ChannelMap)

def countables (counts : List Nat) : List Nat := counts.filter fun count => Countable count

theorem resizedTo?_of_resizes (counts : List Nat) :
    (map.events (counts.map .resize)).filterMap MapEvent.resizedTo? = countables counts ∧
      ∀ event ∈ map.events (counts.map .resize), event.movedTo? = none := by
  induction counts generalizing map with
  | nil => exact ⟨rfl, nofun⟩
  | cons count rest ih =>
      obtain ⟨resized, unmoved⟩ := ih (MapStep.perform (.resize count) map).2
      have first : MapEvent.resizedTo? (eventOf MapStep.perform (.resize count) map) =
            (if Countable count then some count else none) ∧
          MapEvent.movedTo? (eventOf MapStep.perform (.resize count) map) = none := by
        have move := perform_map_moves (.resize count) map
        rw [eventOf]
        generalize MapStep.perform (.resize count) map = result at move ⊢
        obtain ⟨answer, after⟩ := result
        cases move with
        | resized _ _ counted length start => exact ⟨(if_pos counted).symm, rfl⟩
        | uncountable _ beyond => exact ⟨(if_neg beyond).symm, rfl⟩
      have events : map.events ((count :: rest).map .resize) =
          eventOf MapStep.perform (.resize count) map ::
            events (MapStep.perform (.resize count) map).2 (rest.map .resize) := rfl
      rw [events]
      refine ⟨?_, ?_⟩
      · by_cases counted : Countable count
        · simp [first.1, counted, resized, countables]
        · simp [first.1, counted, resized, countables]
      · rw [List.forall_mem_cons]
        exact ⟨first.2, unmoved⟩

/-- Resizes alone: the last one tells the length, and each limits the start. -/
theorem afterRun_resizes (counts : List Nat) :
    (map.afterRun (counts.map .resize)).count = (countables counts).getLast?.getD map.count ∧
      (map.afterRun (counts.map .resize)).start =
        ((countables counts).map (bankSize - ·)).foldl min map.start := by
  obtain ⟨resized, unmoved⟩ := map.resizedTo?_of_resizes counts
  have follows := map.follows_map_afterRun (counts.map .resize)
  have all : sinceMove (map.events (counts.map .resize)) = map.events (counts.map .resize) := by
    rw [sinceMove, List.rtakeWhile_eq_self_iff]
    intro event member
    rw [unmoved event member]
    rfl
  have anchored : latest MapEvent.movedTo? (map.events (counts.map .resize)) = none := by
    rw [latest, List.filterMap_eq_nil_iff.mpr unmoved]
    rfl
  refine ⟨?_, ?_⟩
  · rw [follows.count, latest, resized]
  · rw [follows.start, anchored, all, roomsOf, resized]
    rfl

theorem start_afterRun_resizes_le (counts : List Nat) :
    (map.afterRun (counts.map .resize)).start ≤ map.start := by
  rw [(map.afterRun_resizes counts).2, List.foldl_min]
  exact Nat.min_le_left ..

theorem afterRun_resize_twice (count : Nat) :
    map.afterRun [.resize count, .resize count] = map.afterRun [.resize count] := by
  obtain ⟨onceCount, onceStart⟩ := map.afterRun_resizes [count]
  obtain ⟨twiceCount, twiceStart⟩ := map.afterRun_resizes [count, count]
  refine eq_of_count_start (twiceCount.trans ?_) (twiceStart.trans ?_)
  · rw [show map.afterRun [.resize count] = map.afterRun ([count].map .resize) from rfl, onceCount]
    by_cases counted : Countable count
    · simp [countables, counted]
    · simp [countables, counted]
  · rw [show map.afterRun [.resize count] = map.afterRun ([count].map .resize) from rfl, onceStart]
    by_cases counted : Countable count
    · simp [countables, counted]
    · simp [countables, counted]

theorem foldl_min_eq_self_iff (first : Nat) (others : List Nat) :
    others.foldl min first = first ↔ ∀ other ∈ others, first ≤ other := by
  rw [← Option.some_inj, ← List.min?_cons', List.min?_eq_some_iff]
  simp

theorem forall_add_le_iff_max? (base limit : Nat) (values : List Nat) :
    (∀ value ∈ values, base + value ≤ limit) ↔ ∀ largest ∈ values.max?, base + largest ≤ limit := by
  constructor
  · intro all largest found
    exact all largest (List.max?_eq_some_iff.mp found).1
  · intro most value member
    obtain ⟨largest, found⟩ := Option.isSome_iff_exists.mp (List.isSome_max?_of_mem member)
    have below := (List.max?_eq_some_iff.mp found).2 value member
    have fits := most largest found
    omega

/-- Back at its length, a map is where it was exactly if every run on the way fitted there. -/
theorem afterRun_resizes_back_iff (counts : List Nat) :
    map.afterRun (counts.map .resize ++ [.resize map.count]) = map ↔
      ∀ count ∈ countables counts, map.start + count ≤ bankSize := by
  have whole : counts.map MapStep.resize ++ [.resize map.count] =
      (counts ++ [map.count]).map .resize := by simp
  have listed : countables (counts ++ [map.count]) = countables counts ++ [map.count] := by
    simp [countables, map.countable]
  obtain ⟨length, start⟩ := map.afterRun_resizes (counts ++ [map.count])
  rw [listed, List.getLast?_concat] at length
  rw [listed] at start
  have here : map.start ≤ bankSize - map.count := by
    have bank := map.fits
    omega
  have room (count : Nat) (member : count ∈ countables counts) :
      map.start ≤ bankSize - count ↔ map.start + count ≤ bankSize := by
    have counted : Countable count := by simpa using List.of_mem_filter member
    exact Nat.le_sub_iff_add_le counted.2
  calc
    _ ↔ (map.afterRun ((counts ++ [map.count]).map .resize)).start = map.start := by
      rw [whole]
      exact ⟨congrArg ChannelMap.start, eq_of_count_start length⟩
    _ ↔ ∀ count ∈ countables counts, map.start ≤ bankSize - count := by
      rw [start, foldl_min_eq_self_iff, List.forall_mem_map, List.forall_mem_append]
      exact and_iff_left (by simpa using here)
    _ ↔ _ := forall₂_congr room

end Resizes

structure EditedInClosedForm (map : ChannelMap) (steps : List MapStep) : Prop where
  resizes : ∀ event ∈ map.events steps, ∀ count, event.step = .resize count →
    (event.answer = .ok () ↔ 1 ≤ count ∧ count ≤ 64)
  moves : ∀ event ∈ map.events steps, ∀ start, event.step = .move start →
    (event.answer = .ok () ↔ start ≤ 64 - event.before.count)
  kept : ∀ event ∈ map.events steps, event.answer ≠ .ok () → event.after = event.before
  count : (map.afterRun steps).count =
    (latest MapEvent.resizedTo? (map.events steps)).getD map.count
  start : ((latest MapEvent.movedTo? (map.events steps)).getD map.start ::
    roomsOf (sinceMove (map.events steps))).min? = some (map.afterRun steps).start

/-- The length of a map is that of the last resize, and its start is the least of the last start that
was asked for and of the rooms that the resizes since then left.  So resizes never raise the start, and
a map that gets its length back gets its start back exactly if the longest run on the way fitted
there. -/
theorem edited_maps_have_closed_form (map : ChannelMap) :
    (∀ steps, map.EditedInClosedForm steps) ∧
      (∀ counts : List Nat, (map.afterRun (counts.map .resize)).start ≤ map.start) ∧
      (∀ count, map.afterRun [.resize count, .resize count] = map.afterRun [.resize count]) ∧
      ∀ counts : List Nat,
        map.afterRun (counts.map .resize ++ [.resize map.count]) = map ↔
          ∀ largest ∈ (counts.filter fun count => 1 ≤ count ∧ count ≤ 64).max?,
            map.start + largest ≤ 64 := by
  refine ⟨?_, map.start_afterRun_resizes_le, map.afterRun_resize_twice, ?_⟩
  · intro steps
    have follows := map.follows_map_afterRun steps
    have answered (event : MapEvent) (member : event ∈ map.events steps) :=
      answer_of_move (events_of_moves perform_map_moves steps map event member)
    exact {
      resizes := fun event member => (answered event member).1
      moves := fun event member => (answered event member).2.1
      kept := fun event member => (answered event member).2.2
      count := follows.count
      start := by rw [List.min?_cons', follows.start] }
  · intro counts
    exact (map.afterRun_resizes_back_iff counts).trans (forall_add_le_iff_max? _ _ _)

example : afterRun ⟨50, 2, by decide, by decide⟩ [.resize 20, .move 90, .resize 2] =
    ⟨44, 2, by decide, by decide⟩ := by decide

end ChannelMap

end NetAudio
