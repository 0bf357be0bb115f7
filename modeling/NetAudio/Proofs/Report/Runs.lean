import NetAudio.Proofs.Report.Arguments
import NetAudio.Proofs.Report.Printing

/-!
# Runs of the report

A list of arguments that is refused prints what comes before its fault and ends with the text of it; one
of a sound request prints the whole report.  So a run succeeds exactly for sound requests, and never fails
in the table.
-/

set_option autoImplicit false

namespace NetAudio.Report

/-! ## What is printed for a list of arguments -/

theorem prints_argument {α : Type} {name value : String} {read : String → Except String α} {result : α}
    (taken : read value = .ok result) : Prints (argument name value read) [] (.ok result) := by
  rw [argument, taken]
  exact prints_pure result

theorem prints_misread {α : Type} {name value cause : String} {read : String → Except String α}
    (unread : read value = .error cause) :
    Prints (argument name value read) [] (.error (misread name value cause)) := by
  rw [argument, unread]
  exact prints_throw _

def readStart : List String → Printer Nat
  | [] => return 0
  | offset :: _ => argument "start offset" offset readCount

theorem printMap_cons (channels : String) (more : List String) :
    printMap (channels :: more) = (do
      let count ← argument "channel count" channels readCount
      printChannels count (← readStart more)) := by
  cases more <;> rfl

theorem prints_start {args : List String} {start : Nat} (started : SpeltStart args start) :
    Prints (readStart args) [] (.ok start) := by
  cases started with
  | omitted => exact prints_pure 0
  | given number => exact prints_argument ((readCount_eq_ok_iff _ start).mpr number)

theorem prints_map {args : List String} {channels : Option (Nat × Nat)}
    (spelt : SpeltChannels args channels) (fit : ChannelsFit channels) :
    Prints (printMap args) (channelLines channels) (.ok ()) := by
  cases spelt with
  | omitted => exact prints_pure ()
  | @given _ _ count start counted started =>
      obtain ⟨map, made⟩ := contiguous_of_channelsFit fit
      rw [printMap_cons]
      have number := (readCount_eq_ok_iff _ count).mpr counted
      exact (prints_argument number).bind_silent ((prints_start started).bind_silent (prints_channels made))

theorem prints_map_refused {args : List String} {failure : Failure}
    (refused : ChannelsRefused args failure) : Prints (printMap args) [] (.error failure) := by
  cases refused with
  | count unread =>
      rw [printMap_cons]
      exact (prints_misread unread).bind_error
  | start counted unread =>
      rw [printMap_cons]
      have number := (readCount_eq_ok_iff _ _).mpr counted
      exact (prints_argument number).bind_silent (prints_misread unread).bind_error
  | map counted started refused =>
      rw [printMap_cons]
      have number := (readCount_eq_ok_iff _ _).mpr counted
      exact (prints_argument number).bind_silent
        ((prints_start started).bind_silent (prints_channels_error refused))

def headLines (codec : Codec) (clock : Clock) : List String :=
  ["\n=== Clock ===",
    s!"  Sample rate:       {clock.sampleRate.toNat} Hz",
    s!"  Frame multiplier:  {clock.frameMultiplier.toNat}",
    s!"  Max samples/packet {clock.maxSamplesPerPacket.toNat}",
    s!"\n=== Samples per packet ({codec.name}) ==="]

def printTable (codec : Codec) (clock : Clock) (next : Printer Unit) : Printer Unit := do
  line "\n=== Clock ==="
  line s!"  Sample rate:       {clock.sampleRate.toNat} Hz"
  line s!"  Frame multiplier:  {clock.frameMultiplier.toNat}"
  line s!"  Max samples/packet {clock.maxSamplesPerPacket.toNat}"
  line s!"\n=== Samples per packet ({codec.name}) ==="
  clock.packetOptions.forM (row codec)
  next

theorem prints_printTable (codec : Codec) (clock : Clock) {next : Printer Unit} {lines : List String}
    {result : Except Failure Unit} (after : Prints next lines result) :
    Prints (printTable codec clock next)
      (headLines codec clock ++ (rows codec clock).map Row.text ++ lines) result := by
  have table := (prints_table codec clock).andThen after
  have encoded := (prints_line s!"\n=== Samples per packet ({codec.name}) ===").andThen table
  have ceiling := (prints_line s!"  Max samples/packet {clock.maxSamplesPerPacket.toNat}").andThen encoded
  have multiplier := (prints_line s!"  Frame multiplier:  {clock.frameMultiplier.toNat}").andThen ceiling
  have rate := (prints_line s!"  Sample rate:       {clock.sampleRate.toNat} Hz").andThen multiplier
  exact (prints_line "\n=== Clock ===").andThen rate

def printClock (hz ticFrameSize : UInt32) (codec : Codec) (rest : List String) : Printer Unit :=
  match Clock.resolve hz ticFrameSize .reject with
  | .error cause => refuse cause
  | .ok clock => printTable codec clock (do printMap rest; line "")

theorem print_cons (rate tic encoding : String) (rest : List String) :
    print (rate :: tic :: encoding :: rest) = (do
      let hz ← argument "sample rate" rate readWord
      let ticFrameSize ← argument "tic frame size" tic readWord
      let codec ← argument "codec" encoding readCodec
      printClock hz ticFrameSize codec rest) :=
  rfl

section Clocks
variable {hz ticFrameSize : UInt32} {codec : Codec} {rest lines : List String}
  {result : Except Failure Unit}

theorem prints_clock_refused {cause : CalculatorError}
    (refused : Clock.resolve hz ticFrameSize .reject = .error cause) :
    Prints (printClock hz ticFrameSize codec rest) [] (.error ⟨cause.message, none⟩) := by
  rw [printClock, refused]
  exact prints_throw _

theorem prints_clock {clock : Clock} (made : Clock.resolve hz ticFrameSize .reject = .ok clock)
    (after : Prints (do printMap rest; line "") lines result) :
    Prints (printClock hz ticFrameSize codec rest)
      (headLines codec clock ++ (rows codec clock).map Row.text ++ lines) result := by
  rw [printClock, made]
  exact prints_printTable codec clock after

theorem prints_of_read {rate tic encoding : String} (rated : readWord rate = .ok hz)
    (timed : readWord tic = .ok ticFrameSize) (encoded : readCodec encoding = .ok codec)
    (printed : Prints (printClock hz ticFrameSize codec rest) lines result) :
    Prints (print (rate :: tic :: encoding :: rest)) lines result := by
  rw [print_cons]
  apply (prints_argument rated).bind_silent
  apply (prints_argument timed).bind_silent
  apply (prints_argument encoded).bind_silent
  exact printed

end Clocks

def Request.lines (request : Request) (clock : Clock) : List String :=
  headLines request.codec clock ++ (rows request.codec clock).map Row.text ++
    (channelLines request.channels ++ [""])

theorem prints_of_spelt {args : List String} {request : Request} {clock : Clock}
    (spelt : Spelt args request) (fit : ChannelsFit request.channels)
    (made : Clock.resolve request.hz request.ticFrameSize .reject = .ok clock) :
    Prints (print args) (request.lines clock) (.ok ()) := by
  cases spelt with
  | given hz ticFrameSize codec channels =>
      rw [← readWord_eq_ok_iff] at hz ticFrameSize
      rw [← readCodec_eq_ok_iff] at codec
      have ended := (prints_map channels fit).andThen (prints_line "")
      exact prints_of_read hz ticFrameSize codec (prints_clock made ended)

theorem prints_of_refused {args : List String} {failure : Failure} (refused : Refused args failure) :
    ∃ lines, Prints (print args) lines (.error failure) := by
  cases refused with
  | usage few =>
      match args, few with
      | [], _ | [_], _ | [_, _], _ => exact ⟨[], prints_throw _⟩
  | rate unread =>
      rw [print_cons]
      exact ⟨_, (prints_misread unread).bind_error⟩
  | tic rated unread =>
      rw [print_cons]
      exact ⟨_, (prints_argument rated).bind_silent (prints_misread unread).bind_error⟩
  | codec rated timed unread =>
      rw [print_cons]
      exact ⟨_, (prints_argument rated).bind_silent
        ((prints_argument timed).bind_silent (prints_misread unread).bind_error)⟩
  | clock rated timed encoded refused =>
      exact ⟨[], prints_of_read rated timed encoded (prints_clock_refused refused)⟩
  | channels rated timed encoded made refused =>
      exact ⟨_, prints_of_read rated timed encoded
        (prints_clock made (prints_map_refused refused).bind_error)⟩

/-! ## Runs -/

theorem run_of_prints {args lines : List String} (printed : Prints (print args) lines (.ok ())) :
    run args = ⟨0, joined lines, ""⟩ := by
  have ended := carryOut_eq_ok.mp (printed "")
  rw [run, ended, String.empty_append]

theorem run_of_prints_error {args lines : List String} {failure : Failure}
    (printed : Prints (print args) lines (.error failure)) :
    run args = ⟨1, joined lines, failure.text⟩ := by
  have ended := carryOut_eq_error.mp (printed "")
  rw [run, ended, String.empty_append]

theorem run_of_sound {args : List String} {request : Request} (spelt : Spelt args request)
    (sound : request.Sound) :
    ∃ clock, Clock.resolve request.hz request.ticFrameSize .reject = .ok clock ∧
      run args = ⟨0, joined (request.lines clock), ""⟩ := by
  obtain ⟨rate, supported⟩ := (SampleRate.supported_iff request.hz).mp sound.rate
  have made := (Clock.runsAt_of_supported supported sound.packet).resolved .reject
  exact ⟨_, made, run_of_prints (prints_of_spelt spelt sound.channels made)⟩

theorem run_of_refused {args : List String} {failure : Failure} (refused : Refused args failure) :
    ∃ lines, run args = ⟨1, joined lines, failure.text⟩ := by
  obtain ⟨lines, printed⟩ := prints_of_refused refused
  exact ⟨lines, run_of_prints_error printed⟩

/-- A run succeeds exactly for the arguments of a sound request. -/
theorem code_eq_zero_iff (args : List String) :
    (run args).code = 0 ↔ ∃ request, Spelt args request ∧ request.Sound := by
  constructor
  · intro succeeded
    rcases spelt_or_refused args with sound | ⟨failure, refused⟩
    · exact sound
    · obtain ⟨lines, ended⟩ := run_of_refused refused
      rw [ended] at succeeded
      have failed : (1 : UInt32) ≠ 0 := by decide
      exact absurd succeeded failed
  · intro given
    obtain ⟨request, spelt, sound⟩ := given
    obtain ⟨clock, -, ended⟩ := run_of_sound spelt sound
    rw [ended]

/-- Arguments behind the fifth are not looked at. -/
theorem run_take (args : List String) : run args = run (args.take 5) := by
  match args with
  | [] | [_] | [_, _] | [_, _, _] | [_, _, _, _] => rfl
  | _ :: _ :: _ :: _ :: _ :: _ => rfl

/-! ## The failure that does not arise -/

theorem text_ne_limit {failure : Failure} (front : String)
    (begins : front.toList <+: failure.message.toList)
    (differs : ¬ ("Error: ".toList ++ front.toList) <+: limitFailure.text.toList) :
    failure.text ≠ limitFailure.text := by
  intro same
  apply differs
  obtain ⟨back, whole⟩ := begins
  rw [← same, Failure.text]
  simp only [String.toList_append, ← whole, List.append_assoc, List.prefix_append_right_inj,
    List.prefix_append]

theorem misread_ne_limit (name value cause : String) :
    (misread name value cause).text ≠ limitFailure.text := by
  apply text_ne_limit "invalid "
  · simp only [misread, String.toList_append, List.append_assoc, List.prefix_append]
  · decide

theorem clock_ne_limit {hz ticFrameSize : UInt32} {cause : CalculatorError}
    (refused : Clock.resolve hz ticFrameSize .reject = .error cause) :
    Failure.text ⟨cause.message, none⟩ ≠ limitFailure.text := by
  rcases ((Clock.policiesAgree hz ticFrameSize).rejected cause).mp refused with
    ⟨-, rfl⟩ | ⟨-, -, rfl⟩
  · have told : (CalculatorError.unsupportedSampleRate hz).message =
        "Unsupported sample rate: " ++ toString hz.toNat ++ " Hz" := rfl
    apply text_ne_limit "Unsupported sample rate: "
    · simp only [told, String.toList_append, List.append_assoc, List.prefix_append]
    · decide
  · decide

theorem map_ne_limit {count start : Nat} {cause : CalculatorError}
    (refused : ChannelMap.contiguous count start = .error cause) :
    Failure.text ⟨cause.message, none⟩ ≠ limitFailure.text := by
  rw [ChannelMap.contiguous] at refused
  split at refused
  · split at refused
    · cases refused
    · cases refused
      have told : (CalculatorError.mapOverflow start count bankSize).message =
          "Channel map overflow: start " ++ toString start ++ " + " ++ toString count ++
            " channels exceeds " ++ toString bankSize := rfl
      apply text_ne_limit "Channel map overflow: start "
      · simp only [told, String.toList_append, List.append_assoc, List.prefix_append]
      · decide
  · cases refused
    have told : (CalculatorError.invalidChannelCount count).message =
        "Invalid channel count: " ++ toString count := rfl
    apply text_ne_limit "Invalid channel count: "
    · simp only [told, String.toList_append, List.prefix_append]
    · decide

theorem ChannelsRefused.text_ne {args : List String} {failure : Failure}
    (refused : ChannelsRefused args failure) : failure.text ≠ limitFailure.text := by
  cases refused with
  | count unread => exact misread_ne_limit _ _ _
  | start counted unread => exact misread_ne_limit _ _ _
  | map counted started refused => exact map_ne_limit refused

theorem Refused.text_ne {args : List String} {failure : Failure} (refused : Refused args failure) :
    failure.text ≠ limitFailure.text := by
  cases refused with
  | usage few => decide
  | rate unread => exact misread_ne_limit _ _ _
  | tic rated unread => exact misread_ne_limit _ _ _
  | codec rated timed unread => exact misread_ne_limit _ _ _
  | clock rated timed encoded refused => exact clock_ne_limit refused
  | channels rated timed encoded made refused => exact refused.text_ne

theorem stderr_ne_limit (args : List String) : (run args).stderr ≠ limitFailure.text := by
  rcases spelt_or_refused args with ⟨request, spelt, sound⟩ | ⟨failure, refused⟩
  · obtain ⟨clock, -, ended⟩ := run_of_sound spelt sound
    have silent : "" ≠ limitFailure.text := by decide
    rw [ended]
    exact silent
  · obtain ⟨lines, ended⟩ := run_of_refused refused
    rw [ended]
    exact refused.text_ne

end NetAudio.Report
