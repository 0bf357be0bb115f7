import NetAudio.Proofs.Text.Digits
import NetAudio.Service.Endpoint

/-!
# Readable queries

An endpoint takes parameters from a query: each by its name, from one place, and as a text of its kind.
A query can be read exactly if it gives all parameters of the endpoint; whatever else it holds does not
count.
-/

set_option autoImplicit false

namespace NetAudio

open Http

namespace Service

/-! ## Parameters -/

inductive Parameter.Kind where
  | text
  /-- A number up to a bound. -/
  | number (bound : Nat)
  deriving DecidableEq, Repr

def Parameter.Kind.Admits : Kind → String → Prop
  | text, _ => True
  | number bound, value => ∃ n, Decimal.Spells value.toList n ∧ n ≤ bound

structure Parameter where
  name : String
  kind : Parameter.Kind
  /-- Whether it may be left out. -/
  optional : Bool
  deriving DecidableEq, Repr

def valuesOf (name : String) (query : List Char) : List String :=
  ((queryFields query).filter (·.1 == name)).map (·.2)

structure Parameter.GivenBy (parameter : Parameter) (query : List Char) : Prop where
  once : (valuesOf parameter.name query).length ≤ 1
  present : parameter.optional = false → valuesOf parameter.name query ≠ []
  admitted : ∀ value ∈ valuesOf parameter.name query, parameter.kind.Admits value

/-- The parameters of an endpoint; only three of them look at a query. -/
def Endpoint.parameters : Endpoint → List Parameter
  | .packetOptions =>
    [⟨"sample_rate", .number 4294967295, false⟩, ⟨"tic_frame_size_at_1fs", .number 4294967295, false⟩]
  | .maxChannels => [⟨"codec", .text, false⟩, ⟨"samples_per_packet", .number 4294967295, false⟩]
  | .channelMap =>
    [⟨"channels", .number 18446744073709551615, false⟩, ⟨"start", .number 18446744073709551615, true⟩]
  | _ => []

def Endpoint.CanRead (endpoint : Endpoint) (query : List Char) : Prop :=
  ∀ parameter ∈ endpoint.parameters, parameter.GivenBy query

/-! ## Fields -/

section Fields

variable {α β : Type} {read : String → Except Decimal.Fault α} {kind : Parameter.Kind}

def Reads (read : String → Except Decimal.Fault α) (kind : Parameter.Kind) : Prop :=
  ∀ text, (∃ value, read text = .ok value) ↔ kind.Admits text

theorem reads_text : Reads .ok .text := by
  intro text
  exact ⟨fun _ => trivial, fun _ => ⟨text, rfl⟩⟩

theorem reads_count : Reads Decimal.readCount (.number 18446744073709551615) := by
  intro text
  exact exists_congr fun n => Decimal.read_eq_ok_iff _ text n

theorem reads_u32 : Reads Decimal.readU32 (.number 4294967295) := by
  intro text
  constructor
  · intro taken
    obtain ⟨word, read⟩ := taken
    exact ⟨word.toNat, (Decimal.readU32_eq_ok_iff text word).mp read, Nat.le_of_lt_succ word.toNat_lt⟩
  · intro given
    obtain ⟨n, spelt, bound⟩ := given
    have value : (UInt32.ofNat n).toNat = n := UInt32.toNat_ofNat_of_lt (Nat.lt_succ_of_le bound)
    rw [← value] at spelt
    exact ⟨.ofNat n, (Decimal.readU32_eq_ok_iff text _).mpr spelt⟩

theorem optionalField_eq_ok_iff (query : List Char) (name : String) (value? : Option α) :
    optionalField (queryFields query) name read = .ok value? ↔
      (valuesOf name query = [] ∧ value? = none) ∨
        ∃ text value, valuesOf name query = [text] ∧ read text = .ok value ∧ value? = some value := by
  rw [optionalField, valuesOf]
  split
  · next nothing => simp [nothing, eq_comm]
  · next field text alone =>
      cases taken : read text with
      | ok value => simp [alone, taken, eq_comm]
      | error fault => simp [alone, taken]
  · next some several =>
      constructor
      · nofun
      · rintro (⟨empty, -⟩ | ⟨text, value, single, -, -⟩)
        · exact absurd (List.map_eq_nil_iff.mp empty) some
        · obtain ⟨⟨field, other⟩, alone, -⟩ := List.map_eq_singleton_iff.mp single
          exact absurd alone (several field other)

theorem optionalField_of_reads (reads : Reads read kind) (query : List Char) (name : String) :
    (∃ value?, optionalField (queryFields query) name read = .ok value?) ↔
      Parameter.GivenBy ⟨name, kind, true⟩ query := by
  simp only [optionalField_eq_ok_iff]
  constructor
  · rintro ⟨value?, ⟨nothing, -⟩ | ⟨text, value, single, taken, -⟩⟩
    · exact ⟨by simp [nothing], nofun, by simp [nothing]⟩
    · refine ⟨by simp [single], nofun, ?_⟩
      rw [single]
      intro other member
      obtain rfl := List.mem_singleton.mp member
      exact (reads other).mp ⟨value, taken⟩
  · intro given
    rcases Nat.le_one_iff_eq_zero_or_eq_one.mp given.once with zero | one
    · exact ⟨none, .inl ⟨List.length_eq_zero_iff.mp zero, rfl⟩⟩
    · obtain ⟨text, single⟩ := List.length_eq_one_iff.mp one
      obtain ⟨value, taken⟩ := (reads text).mpr (given.admitted text (by simp [single]))
      exact ⟨some value, .inr ⟨text, value, single, taken, rfl⟩⟩

theorem requiredField_of_reads (reads : Reads read kind) (query : List Char) (name : String) :
    (∃ value, requiredField (queryFields query) name read = .ok value) ↔
      Parameter.GivenBy ⟨name, kind, false⟩ query := by
  have optional := optionalField_of_reads reads query name
  rw [requiredField]
  cases taken : optionalField (queryFields query) name read with
  | error fault =>
      refine ⟨nofun, fun given => ?_⟩
      obtain ⟨value?, other⟩ := optional.mpr ⟨given.once, nofun, given.admitted⟩
      rw [taken] at other
      cases other
  | ok value? =>
      have given := optional.mp ⟨value?, taken⟩
      rcases (optionalField_eq_ok_iff query name value?).mp taken with ⟨nothing, rfl⟩ | ⟨text, value, single, -, rfl⟩
      · refine ⟨nofun, fun required => ?_⟩
        exact absurd nothing (required.present rfl)
      · refine ⟨fun _ => ⟨given.once, fun _ => ?_, given.admitted⟩, fun _ => ⟨value, rfl⟩⟩
        rw [single]
        nofun

/-! ## Queries -/

theorem exists_answer_iff (read : Except QueryFault α) (answer : α → β) :
    (∃ result, (do return answer (← read)) = .ok result) ↔ ∃ value, read = .ok value := by
  cases read with
  | error fault => exact ⟨nofun, nofun⟩
  | ok value => exact ⟨fun _ => ⟨value, rfl⟩, fun _ => ⟨answer value, rfl⟩⟩

/-- A query of two parameters can be read exactly if both are given. -/
theorem exists_pair_iff {γ : Type} {first : Except QueryFault α} {second : Except QueryFault β}
    {left right : Parameter} {query : List Char} (combine : α → β → γ)
    (takes : (∃ value, first = .ok value) ↔ left.GivenBy query)
    (thenTakes : (∃ value, second = .ok value) ↔ right.GivenBy query) :
    (∃ result, (do return combine (← first) (← second)) = .ok result) ↔
      ∀ parameter ∈ [left, right], parameter.GivenBy query := by
  simp only [List.forall_mem_cons, ← takes, ← thenTakes]
  cases first with
  | error fault => simp [bind, Except.bind]
  | ok value =>
      apply (exists_answer_iff second (combine value)).trans
      simp

end Fields

/-! ## Endpoints -/

theorem ClockRates.ofQuery_iff (query : List Char) :
    (∃ rates, ClockRates.ofQuery query = .ok rates) ↔ Endpoint.packetOptions.CanRead query :=
  exists_pair_iff ClockRates.mk (requiredField_of_reads reads_u32 query "sample_rate")
    (requiredField_of_reads reads_u32 query "tic_frame_size_at_1fs")

theorem PacketQuestion.ofQuery_iff (query : List Char) :
    (∃ question, PacketQuestion.ofQuery query = .ok question) ↔
      Endpoint.maxChannels.CanRead query :=
  exists_pair_iff PacketQuestion.mk (requiredField_of_reads reads_text query "codec")
    (requiredField_of_reads reads_u32 query "samples_per_packet")

theorem MapQuestion.ofQuery_iff (query : List Char) :
    (∃ question, MapQuestion.ofQuery query = .ok question) ↔ Endpoint.channelMap.CanRead query :=
  exists_pair_iff (fun channels (start : Option Nat) => MapQuestion.mk channels (start.getD 0))
    (requiredField_of_reads reads_count query "channels")
    (optionalField_of_reads reads_count query "start")

/-- An endpoint gives a reply exactly if it can read the query. -/
theorem Endpoint.reply_iff (endpoint : Endpoint) (state : State) (request : Request) :
    (∃ reply, endpoint.reply state request = .ok reply) ↔ endpoint.CanRead request.target.query := by
  cases endpoint with
  | packetOptions => exact (exists_answer_iff _ _).trans (ClockRates.ofQuery_iff _)
  | maxChannels => exact (exists_answer_iff _ _).trans (PacketQuestion.ofQuery_iff _)
  | channelMap => exact (exists_answer_iff _ _).trans (MapQuestion.ofQuery_iff _)
  | _ => exact ⟨fun _ => nofun, fun _ => ⟨_, rfl⟩⟩

end Service

end NetAudio
