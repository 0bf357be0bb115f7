/-!
# Causes of refusal

Every operation that can refuse names its cause as a value; the wording of a cause is in one
`message` function per type.
-/

set_option autoImplicit false

namespace NetAudio

/-- What a calculation on stream parameters refuses. -/
inductive CalculatorError where
  | unsupportedSampleRate (hz : UInt32)
  | invalidArgument (text : String)
  | invalidChannelCount (count : Nat)
  | mapOverflow (start count limit : Nat)
  | nonContiguousMap (indices : List UInt8)
  | unknownCodec (name : String)
  | unsupportedDscp (codepoint : UInt8)
  deriving DecidableEq, Repr

/-- A list of numbers between square brackets, separated by a comma and a space. -/
def bracketed (values : List Nat) : String :=
  "[" ++ ", ".intercalate (values.map toString) ++ "]"

def CalculatorError.message : CalculatorError → String
  | .unsupportedSampleRate hz => s!"Unsupported sample rate: {hz.toNat} Hz"
  | .invalidArgument text => "Invalid argument: " ++ text
  | .invalidChannelCount count => s!"Invalid channel count: {count}"
  | .mapOverflow start count limit =>
    s!"Channel map overflow: start {start} + {count} channels exceeds {limit}"
  | .nonContiguousMap indices =>
    "Channel map is not contiguous: " ++ bracketed (indices.map UInt8.toNat)
  | .unknownCodec name => "Unknown codec: " ++ name
  | .unsupportedDscp codepoint => s!"Unsupported DSCP codepoint: {codepoint.toNat}"

/-- Where an edit form stands. -/
inductive FormState where
  | editing
  | submitting
  | submitted
  deriving DecidableEq, Repr

def FormState.word : FormState → String
  | .editing => "editing"
  | .submitting => "submitting"
  | .submitted => "submitted"

/-- What an edit form refuses because of its state or its draft. -/
inductive FormError where
  | notEditing (state : FormState)
  | notSubmitting
  | invalid (fields : Nat)
  | immutableId
  deriving DecidableEq, Repr

def FormError.message : FormError → String
  | .notEditing state => "Form is " ++ state.word ++ ", edits are not accepted"
  | .notSubmitting => "Form is not waiting for a submit result"
  | .invalid fields => s!"Draft has {fields} invalid field(s)"
  | .immutableId => "Stream id cannot change within an edit session"

/-- How a call to the daemon fails. -/
inductive DaemonError where
  /-- No answer arrived; the cause is told in the network's words. -/
  | transport (cause : String)
  /-- The daemon refused with this status and text. -/
  | rejected (status : UInt16) (body : String)
  /-- The answer is not what the call returns. -/
  | undecodable (what : String)
  /-- The daemon has nothing under this path. -/
  | notFound (path : String)
  deriving DecidableEq, Repr

def DaemonError.message : DaemonError → String
  | .transport cause => "Request failed: " ++ cause
  | .rejected status body => s!"Daemon rejected request: HTTP {status.toNat}: " ++ body
  | .undecodable what => "Invalid response: " ++ what
  | .notFound path => "Not found: " ++ path

/-- A refusal of the console as a whole. -/
inductive ConsoleError where
  | calculator (cause : CalculatorError)
  | form (cause : FormError)
  | daemon (cause : DaemonError)
  | settings (text : String)
  /-- A text is not a settings file. -/
  | unreadable
  /-- Settings do not fit into a settings file. -/
  | unwritable
  /-- A file or an address could not be used. -/
  | io
  deriving DecidableEq, Repr

def ConsoleError.message : ConsoleError → String
  | .calculator cause => "Calculator error: " ++ cause.message
  | .form cause => "Form error: " ++ cause.message
  | .daemon cause => "API error: " ++ cause.message
  | .settings text => "Configuration error: " ++ text
  | .unreadable => "Configuration error: not a settings file"
  | .unwritable => "Configuration error: not for a settings file"
  | .io => "IO error"

/-! ## Actions that may refuse -/

section Actions
variable {ε σ α β : Type}

/-- What an action that may refuse answers, and the state it leaves. -/
def carryOut (action : EStateM ε σ α) (state : σ) : Except ε α × σ :=
  match action.run state with
  | .ok value after => (.ok value, after)
  | .error cause after => (.error cause, after)

theorem carryOut_eq_ok {action : EStateM ε σ α} {state after : σ} {value : α} :
    carryOut action state = (.ok value, after) ↔ action.run state = .ok value after := by
  rw [carryOut]
  cases action.run state <;> simp

theorem carryOut_eq_error {action : EStateM ε σ α} {state after : σ} {cause : ε} :
    carryOut action state = (.error cause, after) ↔ action.run state = .error cause after := by
  rw [carryOut]
  cases action.run state <;> simp

@[simp] theorem carryOut_pure (value : α) (state : σ) :
    carryOut (pure value : EStateM ε σ α) state = (.ok value, state) := rfl

@[simp] theorem carryOut_throw (cause : ε) (state : σ) :
    carryOut (throw cause : EStateM ε σ α) state = (.error cause, state) := rfl

@[simp] theorem carryOut_get (state : σ) :
    carryOut (get : EStateM ε σ σ) state = (.ok state, state) := rfl

@[simp] theorem carryOut_set (next state : σ) :
    carryOut (set next : EStateM ε σ PUnit) state = (.ok ⟨⟩, next) := rfl

@[simp] theorem carryOut_modify (change : σ → σ) (state : σ) :
    carryOut (modify change : EStateM ε σ PUnit) state = (.ok ⟨⟩, change state) := rfl

@[simp] theorem carryOut_bind (action : EStateM ε σ α) (next : α → EStateM ε σ β) (state : σ) :
    carryOut (action >>= next) state =
      match carryOut action state with
      | (.ok value, after) => carryOut (next value) after
      | (.error cause, after) => (.error cause, after) := by
  simp only [carryOut, EStateM.run_bind]
  cases action.run state <;> rfl

@[simp] theorem carryOut_map (f : α → β) (action : EStateM ε σ α) (state : σ) :
    carryOut (f <$> action) state =
      match carryOut action state with
      | (.ok value, after) => (.ok (f value), after)
      | (.error cause, after) => (.error cause, after) := by
  rw [← bind_pure_comp, carryOut_bind]
  rfl

@[simp] theorem carryOut_adaptExcept {ε' : Type} (embed : ε → ε') (action : EStateM ε σ α)
    (state : σ) :
    carryOut (action.adaptExcept embed) state =
      match carryOut action state with
      | (.ok value, after) => (.ok value, after)
      | (.error cause, after) => (.error (embed cause), after) := by
  simp only [carryOut, EStateM.run_adaptExcept]
  cases action.run state <;> rfl

end Actions

end NetAudio
