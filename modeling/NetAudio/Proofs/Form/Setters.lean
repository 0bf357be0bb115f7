import NetAudio.Proofs.ChannelMap.Edits
import NetAudio.Proofs.Form.Selectors

/-!
# Calls that set one part of a draft

A form has calls that set its codec, its packet size, its description or its map.  Each of them reads
and writes its own part of the draft only.  So a run of such calls leaves every part as the calls for
that part leave it, in their order, and how the calls for different parts are mixed does not matter.
-/

set_option autoImplicit false

namespace NetAudio

inductive DraftPart where
  | codec
  | samples
  | useSdp
  | sdp
  | map
  deriving DecidableEq

inductive Setter : StreamKind → Type where
  | codec (codec : Codec) : Setter .source
  | samples (samples : UInt32) : Setter .source
  | useSdp (useSdp : Bool) : Setter .sink
  | remote (remote : RemoteSource) : Setter .sink
  | map {kind : StreamKind} (step : MapStep) : Setter kind

namespace Setter
variable {kind : StreamKind}

def part : Setter kind → DraftPart
  | .codec _ => .codec
  | .samples _ => .samples
  | .useSdp _ => .useSdp
  | .remote _ => .sdp
  | .map _ => .map

def step : Setter kind → FormStep kind
  | .codec value => .setCodec value
  | .samples value => .setSamples value
  | .useSdp value => .setUseSdp value
  | .remote source => .selectRemote source
  | .map (.resize count) => .setChannels count
  | .map (.move start) => .setStart start

def perform (setter : Setter kind) (form : EditForm kind.Draft) : FormAnswer × EditForm kind.Draft :=
  setter.step.perform form

/-! ## What is set -/

def codec? : Setter .source → Option Codec
  | .codec value => some value
  | _ => none

def samples? : Setter .source → Option UInt32
  | .samples value => some value
  | _ => none

def useSdp? : Setter .sink → Option Bool
  | .useSdp value => some value
  | _ => none

/-- An announcement without an SDP text sets none. -/
def sdp? : Setter .sink → Option String
  | .remote source => if source.sdp = "" then none else some source.sdp
  | _ => none

def mapStep? : Setter kind → Option MapStep
  | .map edit => some edit
  | _ => none

def mapSteps (setters : List (Setter kind)) : List MapStep := setters.filterMap mapStep?

/-- What the last call that sets a value sets, or else the value there was. -/
def last {α : Type} (read : Setter kind → Option α) (setters : List (Setter kind)) (own : α) : α :=
  (setters.filterMap read).getLastD own

end Setter

def SourceDraft.set (draft : SourceDraft) (setters : List (Setter .source)) : SourceDraft :=
  { draft with
    codec := Setter.last Setter.codec? setters draft.codec
    maxSamplesPerPacket := Setter.last Setter.samples? setters draft.maxSamplesPerPacket
    map := draft.map.afterRun (Setter.mapSteps setters) }

def SinkDraft.set (draft : SinkDraft) (setters : List (Setter .sink)) : SinkDraft :=
  { draft with
    useSdp := Setter.last Setter.useSdp? setters draft.useSdp
    sdp := Setter.last Setter.sdp? setters draft.sdp
    map := draft.map.afterRun (Setter.mapSteps setters) }

def StreamKind.set : (kind : StreamKind) → kind.Draft → List (Setter kind) → kind.Draft
  | .source, draft, setters => SourceDraft.set draft setters
  | .sink, draft, setters => SinkDraft.set draft setters

section Setters
variable {kind : StreamKind}

/-! ## One call -/

/-- Only an edit of the map may be refused while a form is edited. -/
def Setter.told (setter : Setter kind) (draft : kind.Draft) : FormAnswer :=
  match setter with
  | .map edit => .edited ((edit.perform (StreamDraft.map draft)).1.mapError .calculator)
  | _ => .edited (.ok ())

theorem withMap_map (draft : kind.Draft) : StreamDraft.withMap draft (StreamDraft.map draft) = draft := by
  cases kind <;> rfl

theorem changeMap_of_editing (step : MapStep) (form : EditForm kind.Draft)
    (editing : form.state = .editing) :
    (EditForm.changeMap step.change).edit id form =
      (.edited ((step.perform (StreamDraft.map form.draft)).1.mapError .calculator),
        { form with draft :=
            StreamDraft.withMap form.draft (step.perform (StreamDraft.map form.draft)).2 }) := by
  rw [FormAction.edit, carryOut_changeMap, if_pos editing, MapStep.perform]
  cases step.change (StreamDraft.map form.draft) with
  | ok changed => rfl
  | error cause =>
      simp only [withMap_map]
      rfl

theorem SinkDraft.set_remote (draft : SinkDraft) (remote : RemoteSource) :
    draft.set [.remote remote] =
      if remote.sdp = "" then draft else { draft with sdp := remote.sdp } := by
  by_cases blank : remote.sdp = ""
  · have unset : [Setter.remote remote].filterMap Setter.sdp? = [] := by simp [Setter.sdp?, blank]
    rw [if_pos blank, set, Setter.last, Setter.last, unset]
    rfl
  · have given : [Setter.remote remote].filterMap Setter.sdp? = [remote.sdp] := by
      simp [Setter.sdp?, blank]
    rw [if_neg blank, set, Setter.last, Setter.last, given]
    rfl

theorem perform_setter (setter : Setter kind) (form : EditForm kind.Draft)
    (editing : form.state = .editing) :
    setter.perform form =
      (setter.told form.draft, { form with draft := kind.set form.draft [setter] }) := by
  cases setter with
  | codec codec => exact edit_of_carryOut (carryOut_update_of_sameId _ form editing rfl) .form
  | samples samples => exact edit_of_carryOut (carryOut_update_of_sameId _ form editing rfl) .form
  | useSdp useSdp => exact edit_of_carryOut (carryOut_update_of_sameId _ form editing rfl) .form
  | remote remote =>
      have run := (carryOut_selectRemote remote.sdp form).trans (if_pos editing)
      rw [← SinkDraft.set_remote] at run
      exact edit_of_carryOut run .form
  | map edit =>
      have same : StreamDraft.withMap form.draft (edit.perform (StreamDraft.map form.draft)).2 =
          kind.set form.draft [.map edit] := by cases kind <;> rfl
      rw [← same]
      cases edit with
      | resize count => exact changeMap_of_editing (.resize count) form editing
      | move start => exact changeMap_of_editing (.move start) form editing

/-! ## A run of calls -/

theorem Setter.last_cons {α : Type} (read : Setter kind → Option α) (setter : Setter kind)
    (rest : List (Setter kind)) (own : α) :
    last read (setter :: rest) own = last read rest (last read [setter] own) := by
  cases found : read setter with
  | none => simp only [last, List.filterMap_cons_none found, List.filterMap_nil, List.getLastD_nil]
  | some value =>
      simp only [last, List.filterMap_cons_some found, List.filterMap_nil, List.getLastD_cons,
        List.getLastD_nil]

theorem afterRun_mapSteps_cons (map : ChannelMap) (setter : Setter kind)
    (rest : List (Setter kind)) :
    map.afterRun (Setter.mapSteps (setter :: rest)) =
      (map.afterRun (Setter.mapSteps [setter])).afterRun (Setter.mapSteps rest) := by
  cases setter <;> rfl

theorem map_set (draft : kind.Draft) (setters : List (Setter kind)) :
    StreamDraft.map (kind.set draft setters) =
      (StreamDraft.map draft).afterRun (Setter.mapSteps setters) := by
  cases kind <;> rfl

theorem SourceDraft.set_cons (draft : SourceDraft) (setter : Setter .source)
    (rest : List (Setter .source)) : draft.set (setter :: rest) = (draft.set [setter]).set rest := by
  rw [set, Setter.last_cons Setter.codec? setter rest, Setter.last_cons Setter.samples? setter rest,
    afterRun_mapSteps_cons]
  rfl

theorem SinkDraft.set_cons (draft : SinkDraft) (setter : Setter .sink)
    (rest : List (Setter .sink)) : draft.set (setter :: rest) = (draft.set [setter]).set rest := by
  rw [set, Setter.last_cons Setter.useSdp? setter rest, Setter.last_cons Setter.sdp? setter rest,
    afterRun_mapSteps_cons]
  rfl

theorem set_cons (draft : kind.Draft) (setter : Setter kind) (rest : List (Setter kind)) :
    kind.set draft (setter :: rest) = kind.set (kind.set draft [setter]) rest := by
  cases kind with
  | source => exact SourceDraft.set_cons draft setter rest
  | sink => exact SinkDraft.set_cons draft setter rest

abbrev SetterEvent (kind : StreamKind) := Event (Setter kind) FormAnswer (EditForm kind.Draft)

def answersTo (part : DraftPart) (events : List (SetterEvent kind)) : List FormAnswer :=
  (events.filter fun event => event.step.part = part).map (·.answer)

def EditForm.setterEvents (form : EditForm kind.Draft) (setters : List (Setter kind)) :
    List (SetterEvent kind) :=
  eventsOf Setter.perform form setters

def EditForm.afterSetters (form : EditForm kind.Draft) (setters : List (Setter kind)) :
    EditForm kind.Draft :=
  stateAfter Setter.perform form setters

section Runs
variable (setters : List (Setter kind)) (form : EditForm kind.Draft)
  (editing : form.state = .editing)
include editing

theorem afterSetters_eq :
    form.afterSetters setters = { form with draft := kind.set form.draft setters } := by
  induction setters generalizing form with
  | nil => cases kind <;> rfl
  | cons setter rest ih =>
      rw [EditForm.afterSetters, stateAfter, perform_setter setter form editing,
        set_cons form.draft setter rest]
      exact ih { form with draft := kind.set form.draft [setter] } editing

theorem setterEvents_cons (setter : Setter kind) :
    form.setterEvents (setter :: setters) =
      ⟨form, setter, setter.told form.draft, { form with draft := kind.set form.draft [setter] }⟩ ::
        EditForm.setterEvents { form with draft := kind.set form.draft [setter] } setters := by
  rw [EditForm.setterEvents, eventsOf, eventOf, perform_setter setter form editing]
  rfl

theorem answersTo_of_ne_map (part : DraftPart) (other : part ≠ .map) :
    answersTo part (form.setterEvents setters) =
      (setters.filter fun setter => setter.part = part).map fun _ => .edited (.ok ()) := by
  induction setters generalizing form with
  | nil => rfl
  | cons setter rest ih =>
      have later := ih { form with draft := kind.set form.draft [setter] } editing
      rw [answersTo] at later ⊢
      rw [setterEvents_cons rest form editing setter]
      by_cases own : setter.part = part
      · have told : setter.told form.draft = .edited (.ok ()) := by
          cases setter with
          | map edit => exact absurd own.symm other
          | _ => rfl
        simp [own, told, later]
      · simp [own, later]

theorem answersTo_map :
    answersTo .map (form.setterEvents setters) =
      ((StreamDraft.map form.draft).events (Setter.mapSteps setters)).map fun event =>
        .edited (event.answer.mapError .calculator) := by
  induction setters generalizing form with
  | nil => rfl
  | cons setter rest ih =>
      have later := ih { form with draft := kind.set form.draft [setter] } editing
      rw [map_set] at later
      rw [answersTo] at later ⊢
      rw [setterEvents_cons rest form editing setter]
      cases setter with
      | map edit => exact congrArg (List.cons _) later
      | _ => exact later

end Runs

/-! ## Calls in another order -/

/-- The same calls for each part, in the same order; calls for different parts may be mixed otherwise. -/
def Reordered (other setters : List (Setter kind)) : Prop :=
  ∀ part, (other.filter fun setter => setter.part = part) =
    setters.filter fun setter => setter.part = part

section Reordered
variable {other setters : List (Setter kind)} (reordered : Reordered other setters)
include reordered

/-- What reads the calls for one part only sees no difference. -/
theorem Reordered.filterMap_eq {α : Type} (read : Setter kind → Option α) (part : DraftPart)
    (own : ∀ setter, setter.part ≠ part → read setter = none) :
    other.filterMap read = setters.filterMap read := by
  have among (calls : List (Setter kind)) :
      calls.filterMap read = (calls.filter fun setter => setter.part = part).filterMap read := by
    rw [List.filterMap_filter]
    refine List.filterMap_congr ?_
    intro setter _
    by_cases same : setter.part = part
    · simp [same]
    · simp [same, own setter same]
  rw [among other, among setters, reordered part]

theorem Reordered.mapSteps_eq : Setter.mapSteps other = Setter.mapSteps setters := by
  refine reordered.filterMap_eq Setter.mapStep? .map ?_
  intro setter foreign
  cases setter with
  | map edit => exact absurd rfl foreign
  | _ => rfl

end Reordered

theorem SourceDraft.set_of_reordered (draft : SourceDraft) {other setters : List (Setter .source)}
    (reordered : Reordered other setters) : draft.set other = draft.set setters := by
  have codec := reordered.filterMap_eq Setter.codec? .codec (by
    intro setter foreign
    cases setter with
    | codec value => exact absurd rfl foreign
    | _ => rfl)
  have samples := reordered.filterMap_eq Setter.samples? .samples (by
    intro setter foreign
    cases setter with
    | samples value => exact absurd rfl foreign
    | _ => rfl)
  simp only [set, Setter.last, codec, samples, reordered.mapSteps_eq]

theorem SinkDraft.set_of_reordered (draft : SinkDraft) {other setters : List (Setter .sink)}
    (reordered : Reordered other setters) : draft.set other = draft.set setters := by
  have useSdp := reordered.filterMap_eq Setter.useSdp? .useSdp (by
    intro setter foreign
    cases setter with
    | useSdp value => exact absurd rfl foreign
    | _ => rfl)
  have sdp := reordered.filterMap_eq Setter.sdp? .sdp (by
    intro setter foreign
    cases setter with
    | remote source => exact absurd rfl foreign
    | _ => rfl)
  simp only [set, Setter.last, useSdp, sdp, reordered.mapSteps_eq]

theorem set_of_reordered (draft : kind.Draft) {other setters : List (Setter kind)}
    (reordered : Reordered other setters) : kind.set draft other = kind.set draft setters := by
  cases kind with
  | source => exact SourceDraft.set_of_reordered draft reordered
  | sink => exact SinkDraft.set_of_reordered draft reordered

theorem answersTo_of_reordered (form : EditForm kind.Draft) (editing : form.state = .editing)
    {other setters : List (Setter kind)} (reordered : Reordered other setters) (part : DraftPart) :
    answersTo part (form.setterEvents other) = answersTo part (form.setterEvents setters) := by
  by_cases map : part = .map
  · rw [map, answersTo_map other form editing, answersTo_map setters form editing,
      reordered.mapSteps_eq]
  · rw [answersTo_of_ne_map other form editing part map,
      answersTo_of_ne_map setters form editing part map, reordered part]

structure SettersApart (form : EditForm kind.Draft) (setters : List (Setter kind)) : Prop where
  draft : form.afterSetters setters = { form with draft := kind.set form.draft setters }
  /-- Only edits of the map may fail, and they do so as they would on the map alone. -/
  answers : ∀ part, answersTo part (form.setterEvents setters) =
    if part = .map then
      ((StreamDraft.map form.draft).events (Setter.mapSteps setters)).map fun event =>
        .edited (event.answer.mapError .calculator)
    else
      (setters.filter fun setter => setter.part = part).map fun _ => .edited (.ok ())
  order : ∀ other, Reordered other setters →
    form.afterSetters other = form.afterSetters setters ∧
      (form.afterSetters other).validate = (form.afterSetters setters).validate ∧
      ∀ part, answersTo part (form.setterEvents other) = answersTo part (form.setterEvents setters)

end Setters

/-- While a form is edited, the calls for one part of its draft do what they would do without the calls
for the other parts. -/
theorem setters_do_not_meet (kind : StreamKind) (form : EditForm kind.Draft)
    (editing : form.state = .editing) (setters : List (Setter kind)) : SettersApart form setters where
  draft := afterSetters_eq setters form editing
  answers := by
    intro part
    split
    · next map =>
        rw [map]
        exact answersTo_map setters form editing
    · next other => exact answersTo_of_ne_map setters form editing part other
  order := by
    intro other reordered
    have same : form.afterSetters other = form.afterSetters setters := by
      rw [afterSetters_eq other form editing, afterSetters_eq setters form editing,
        set_of_reordered form.draft reordered]
    exact ⟨same, congrArg EditForm.validate same, answersTo_of_reordered form editing reordered⟩

/-- A source is given another codec and packet size between edits of its map that fail or push its
channels down; in another order it comes out the same. -/
theorem source_set_in_another_order :
    let form : EditForm StreamKind.source.Draft :=
      .start .edit (SourceDraft.withDefaults 31) ⟨⟨48000, 48, 1⟩, 1440⟩
    let setters : List (Setter .source) := [.codec .l24, .map (.resize 70), .map (.move 60),
      .samples 96, .map (.resize 10), .codec .am824, .map (.move 55)]
    let other : List (Setter .source) := [.map (.resize 70), .samples 96, .codec .l24,
      .codec .am824, .map (.move 60), .map (.resize 10), .map (.move 55)]
    form.afterSetters setters = { form with draft := { SourceDraft.withDefaults 31 with
        codec := .am824, maxSamplesPerPacket := 96, map := ⟨54, 10, by decide, by decide⟩ } } ∧
      form.afterSetters other = form.afterSetters setters := by
  intro form setters other
  have apart := setters_do_not_meet .source form rfl setters
  refine ⟨apart.draft, (apart.order other ?_).1⟩
  intro part
  cases part <;> rfl

end NetAudio
