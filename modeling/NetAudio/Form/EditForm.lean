import NetAudio.Form.StreamChecks

/-!
# Edit forms

A form holds one draft for one edit session and goes from editing over submitting to submitted, or
back to editing with the message of the refusal.  Edits are taken only while editing.  Every
operation is an action on the form that keeps the form's state when it fails, so what a failing
operation leaves behind is part of its meaning.
-/

set_option autoImplicit false

namespace NetAudio

/-- Whether a form makes a new stream or changes one that exists. -/
inductive EditMode where
  | add
  | edit
  deriving DecidableEq, Repr

/-- What forms need of a draft. -/
class StreamDraft (δ : Type) where
  kind : StreamKind
  id : δ → UInt8
  map : δ → ChannelMap
  withMap : δ → ChannelMap → δ
  /-- The most channels the draft's settings leave room for. -/
  maxChannels : δ → FormContext → UInt64
  validate : δ → FormContext → Validation
  toUpdate : δ → Except CalculatorError StreamUpdate

instance : StreamDraft SourceDraft where
  kind := .source
  id := (·.id)
  map := (·.map)
  withMap draft map := { draft with map }
  maxChannels draft context := draft.maxChannels context.budget
  validate := SourceDraft.validate
  toUpdate draft := draft.toSource.map .source

instance : StreamDraft SinkDraft where
  kind := .sink
  id := (·.id)
  map := (·.map)
  withMap draft map := { draft with map }
  maxChannels _ _ := .ofNat bankSize
  validate draft _ := draft.validate
  toUpdate draft := .ok (.sink draft.toSink)

structure EditForm (δ : Type) where
  mode : EditMode
  context : FormContext
  draft : δ
  state : FormState
  /-- The message of the last refusal, until a submit succeeds. -/
  lastError : Option String

/-- An action on a form that fails with `ε`; a failure keeps the form as the action left it. -/
abbrev FormAction (ε δ : Type) := EStateM ε (EditForm δ)

/-- What a view of a form shows: the choices on offer and the issues. -/
structure FormConstraints where
  kind : StreamKind
  frameMultiplier : UInt32
  maxSamplesPerPacket : UInt32
  /-- Empty for sinks. -/
  packetOptions : List PacketOption
  maxChannels : UInt64
  startOffsets : List Nat
  channelMap : ChannelMap
  validation : Validation

namespace EditForm

variable {δ : Type} [StreamDraft δ]

def start (mode : EditMode) (draft : δ) (context : FormContext) : EditForm δ where
  mode := mode
  context := context
  draft := draft
  state := .editing
  lastError := none

def validate (form : EditForm δ) : Validation :=
  StreamDraft.validate form.draft form.context

def canSubmit (form : EditForm δ) : Bool :=
  form.state = .editing && form.validate.isValid

def constraints (form : EditForm δ) : FormConstraints where
  kind := StreamDraft.kind δ
  frameMultiplier := form.context.clock.frameMultiplier
  maxSamplesPerPacket := form.context.clock.maxSamplesPerPacket
  packetOptions := match StreamDraft.kind δ with
    | .source => form.context.clock.packetOptions
    | .sink => []
  maxChannels := StreamDraft.maxChannels form.draft form.context
  startOffsets := (StreamDraft.map form.draft).startOffsets
  channelMap := StreamDraft.map form.draft
  validation := form.validate

/-! ## Edits -/

def ensureEditing : FormAction FormError δ Unit := do
  let form ← get
  if form.state ≠ .editing then throw (.notEditing form.state)

/-- Changes the draft.  While an existing stream is edited its id is fixed. -/
def update (edit : δ → δ) : FormAction FormError δ Unit := do
  ensureEditing
  let form ← get
  let next := edit form.draft
  if form.mode = .edit ∧ StreamDraft.id next ≠ StreamDraft.id form.draft then throw .immutableId
  set { form with draft := next }

/-- Puts in the place of the draft's map what `change` makes of it. -/
def changeMap (change : ChannelMap → Except CalculatorError ChannelMap) :
    FormAction ConsoleError δ Unit := do
  ensureEditing.adaptExcept .form
  let form ← get
  match change (StreamDraft.map form.draft) with
  | .ok changed => set { form with draft := StreamDraft.withMap form.draft changed }
  | .error cause => throw (.calculator cause)

def setChannels (count : Nat) : FormAction ConsoleError δ Unit :=
  changeMap fun map => map.resized count

def setStart (start : Nat) : FormAction ConsoleError δ Unit :=
  changeMap fun map => map.withStart start

/-! ## Submitting -/

/-- Checks the draft and waits for the outcome of the update that is returned. -/
def beginSubmit : FormAction ConsoleError δ StreamUpdate := do
  ensureEditing.adaptExcept .form
  let form ← get
  if !form.validate.isValid then throw (.form (.invalid form.validate.errorCount))
  match StreamDraft.toUpdate form.draft with
  | .error cause => throw (.calculator cause)
  | .ok sent =>
    set { form with state := .submitting }
    return sent

def finishSubmit (outcome : Except DaemonError Unit) : FormAction FormError δ FormState := do
  let form ← get
  if form.state ≠ .submitting then throw .notSubmitting
  match outcome with
  | .ok () =>
    set { form with state := .submitted, lastError := none }
    return .submitted
  | .error cause =>
    set { form with state := .editing, lastError := some cause.message }
    return .editing

/-- Submits through `send`.  A refusal by the daemon is no failure: the form is back in editing and
keeps the message. -/
def submit {m : Type → Type} [Monad m] (send : StreamUpdate → m (Except DaemonError Unit))
    (form : EditForm δ) : m (Except ConsoleError FormState × EditForm δ) :=
  match beginSubmit.run form with
  | .error cause kept => return (.error cause, kept)
  | .ok update waiting => do
    match (finishSubmit (← send update)).run waiting with
    | .error cause kept => return (.error (.form cause), kept)
    | .ok state finished => return (.ok state, finished)

/-! ## Edits of one kind of draft -/

def setCodec (codec : Codec) : FormAction FormError SourceDraft Unit :=
  update fun draft => { draft with codec }

def setSamples (samples : UInt32) : FormAction FormError SourceDraft Unit :=
  update fun draft => { draft with maxSamplesPerPacket := samples }

def setUseSdp (useSdp : Bool) : FormAction FormError SinkDraft Unit :=
  update fun draft => { draft with useSdp }

/-- Takes over the SDP of an announced source; an announcement without one changes nothing. -/
def selectRemote (sdp : String) : FormAction FormError SinkDraft Unit :=
  if sdp.isEmpty then ensureEditing else update fun draft => { draft with sdp }

end EditForm

end NetAudio
