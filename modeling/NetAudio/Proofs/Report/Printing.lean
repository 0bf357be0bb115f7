import NetAudio.Report
import NetAudio.Proofs.ChannelMap.Lists
import NetAudio.Proofs.Packet.Limits

/-!
# What is printed

Printing only adds lines, and a failure keeps them.  So each part of a report is described by its lines
and its result (`Prints`), and the descriptions of two parts join to that of both.  The table of packet
sizes always prints, one row for each size on offer.
-/

set_option autoImplicit false

namespace NetAudio.Report

/-! ## Actions that add lines -/

def joined : List String → String
  | [] => ""
  | line :: rest => line ++ "\n" ++ joined rest

theorem joined_append (front back : List String) :
    joined (front ++ back) = joined front ++ joined back := by
  induction front with
  | nil => simp [joined]
  | cons line rest ih => simp [joined, ih, String.append_assoc]

/-- Whatever is printed before it, the action adds these lines and ends with this result. -/
def Prints {α : Type} (action : Printer α) (lines : List String) (result : Except Failure α) : Prop :=
  ∀ printed, carryOut action printed = (result, printed ++ joined lines)

section Actions
variable {α β : Type} {action : Printer α} {next : α → Printer β} {lines more : List String}

theorem Prints.bind {value : α} {result : Except Failure β} (first : Prints action lines (.ok value))
    (second : Prints (next value) more result) : Prints (action >>= next) (lines ++ more) result := by
  intro printed
  rw [carryOut_bind, first printed]
  dsimp only
  rw [second, joined_append, String.append_assoc]

theorem Prints.bind_silent {value : α} {result : Except Failure β} (first : Prints action [] (.ok value))
    (second : Prints (next value) more result) : Prints (action >>= next) more result :=
  first.bind second

theorem Prints.andThen {first : Printer Unit} {second : Printer β} {result : Except Failure β}
    (printed : Prints first lines (.ok ())) (later : Prints second more result) :
    Prints (do first; second) (lines ++ more) result :=
  printed.bind later

theorem Prints.bind_error {failure : Failure} (failed : Prints action lines (.error failure)) :
    Prints (action >>= next) lines (.error failure) := by
  intro printed
  rw [carryOut_bind, failed printed]

theorem prints_pure (value : α) : Prints (pure value) [] (.ok value) := by
  intro printed
  simp [joined]

theorem prints_throw (failure : Failure) : Prints (throw failure : Printer α) [] (.error failure) := by
  intro printed
  simp [joined]

end Actions

theorem prints_line (text : String) : Prints (line text) [text] (.ok ()) := by
  intro printed
  simp [line, joined, String.append_assoc]

/-! ## The table -/

structure Row where
  samples : UInt32
  limit : Nat
  disabled : Bool
  deriving DecidableEq

/-- The limit is the exact quotient of the default budget, within a bank. -/
def Row.of (codec : Codec) (option : PacketOption) : Row where
  samples := option.samples
  limit := min 64 (1440 / (option.samples.toNat * codec.bytesPerSample.toNat))
  disabled := !option.allowed

def Row.text (row : Row) : String :=
  s!"  {column 4 row.samples.toNat} samples: up to {column 2 row.limit} channels" ++
    if row.disabled then " [DISABLED]" else ""

theorem maxChannels_eq (codec : Codec) (option : PacketOption) (filled : option.samples ≠ 0) :
    ∃ limit, maxChannels codec option.samples = .ok limit ∧
      limit.toNat = (Row.of codec option).limit :=
  maxChannelsWithin_eq codec option.samples defaultPacketBudget filled

theorem prints_row (codec : Codec) (option : PacketOption) (filled : option.samples ≠ 0) :
    Prints (row codec option) [(Row.of codec option).text] (.ok ()) := by
  obtain ⟨limit, limited, exact⟩ := maxChannels_eq codec option filled
  have written : (Row.of codec option).text =
      s!"  {column 4 option.samples.toNat} samples: up to {column 2 limit.toNat} channels" ++
        if option.allowed then "" else " [DISABLED]" := by
    rw [Row.text, exact]
    cases allowed : option.allowed <;> simp [Row.of, allowed]
  rw [row, limited, written]
  exact prints_line _

/-- What is told of a packet size that has no channel limit. -/
def limitFailure : Failure :=
  ⟨(CalculatorError.invalidArgument "max_samples_per_packet must be positive").message, none⟩

/-- An empty packet would end the report. -/
theorem prints_row_of_empty (codec : Codec) (allowed : Bool) :
    Prints (row codec ⟨0, allowed⟩) [] (.error limitFailure) := by
  rw [row, maxChannels, maxChannelsWithin, if_pos rfl]
  exact prints_throw limitFailure

theorem prints_rows (codec : Codec) (options : List PacketOption)
    (filled : ∀ option ∈ options, option.samples ≠ 0) :
    Prints (options.forM (row codec)) (options.map fun option => (Row.of codec option).text)
      (.ok ()) := by
  induction options with
  | nil => exact prints_pure ()
  | cons option rest ih =>
      rw [List.forall_mem_cons] at filled
      exact (prints_row codec option filled.1).bind (ih filled.2)

def rows (codec : Codec) (clock : Clock) : List Row := clock.packetOptions.map (Row.of codec)

/-- No empty packet is on offer. -/
theorem samples_ne_zero {clock : Clock} {option : PacketOption} (offered : option ∈ clock.packetOptions) :
    option.samples ≠ 0 := by
  obtain ⟨samples, listed, rfl⟩ := List.mem_map.mp offered
  have filled : (0 : UInt32) ∉ packetSizes := by decide
  intro empty
  have empty : samples = 0 := empty
  exact filled (empty ▸ listed)

theorem prints_table (codec : Codec) (clock : Clock) :
    Prints (clock.packetOptions.forM (row codec)) ((rows codec clock).map Row.text) (.ok ()) := by
  rw [rows, List.map_map]
  exact prints_rows codec clock.packetOptions fun _ => samples_ne_zero

/-! ## The channel map -/

def channelLines : Option (Nat × Nat) → List String
  | none => []
  | some (count, start) => ["\n=== Channel map ===", "  " ++ bracketed (List.range' start count)]

theorem prints_channels {count start : Nat} {map : ChannelMap}
    (made : ChannelMap.contiguous count start = .ok map) :
    Prints (printChannels count start) (channelLines (some (count, start))) (.ok ()) := by
  obtain ⟨rfl, rfl⟩ := (ChannelMap.contiguous_eq_ok_iff count start map).mp made
  rw [printChannels, made, channelLines, ← map.toNat_indices]
  exact (prints_line _).andThen (prints_line _)

theorem prints_channels_error {count start : Nat} {cause : CalculatorError}
    (refused : ChannelMap.contiguous count start = .error cause) :
    Prints (printChannels count start) [] (.error ⟨cause.message, none⟩) := by
  rw [printChannels, refused]
  exact prints_throw _

end NetAudio.Report
