import NetAudio.Proofs.ChannelMap.Lists
import NetAudio.Proofs.Packet.Policies
import NetAudio.Report
import NetAudio.Proofs.Text.Digits

/-!
# Arguments of a report

Arguments that spell a rate, a packet time and an encoding, and perhaps a count and a start of channels,
are a request (`Spelt`).  Every list spells a request that a daemon can meet (`Request.Sound`), or it has
a first fault (`Refused`).
-/

set_option autoImplicit false

namespace NetAudio.Report

/-! ## Requests -/

structure Request where
  hz : UInt32
  ticFrameSize : UInt32
  codec : Codec
  /-- Count and start of the channel map, if one is asked for. -/
  channels : Option (Nat × Nat)

def SpellsCount (text : String) (n : Nat) : Prop :=
  Decimal.Spells text.toList n ∧ n ≤ 18446744073709551615

inductive SpeltStart : List String → Nat → Prop where
  | omitted : SpeltStart [] 0
  | given {offset : String} {more : List String} {start : Nat} (number : SpellsCount offset start) :
      SpeltStart (offset :: more) start

inductive SpeltChannels : List String → Option (Nat × Nat) → Prop where
  | omitted : SpeltChannels [] none
  | given {channels : String} {more : List String} {count start : Nat}
      (counted : SpellsCount channels count) (started : SpeltStart more start) :
      SpeltChannels (channels :: more) (some (count, start))

/-- The arguments say what is asked for; the case of ASCII letters in the encoding does not matter. -/
inductive Spelt : List String → Request → Prop where
  | given {rate tic encoding : String} {rest : List String} {request : Request}
      (hz : Decimal.Spells rate.toList request.hz.toNat)
      (ticFrameSize : Decimal.Spells tic.toList request.ticFrameSize.toNat)
      (codec : encoding.toList.map Char.toLower = request.codec.name.toList.map Char.toLower)
      (channels : SpeltChannels rest request.channels) : Spelt (rate :: tic :: encoding :: rest) request

def ChannelsFit (channels : Option (Nat × Nat)) : Prop :=
  ∀ count start, channels = some (count, start) → (1 ≤ count ∧ count ≤ 64) ∧ start ≤ 64 - count

structure Request.Sound (request : Request) : Prop where
  rate : SampleRate.Supported request.hz
  packet : 0 < request.ticFrameSize
  channels : ChannelsFit request.channels

theorem channelsFit_of_contiguous {count start : Nat} {map : ChannelMap}
    (made : ChannelMap.contiguous count start = .ok map) : ChannelsFit (some (count, start)) := by
  obtain ⟨rfl, rfl⟩ := (ChannelMap.contiguous_eq_ok_iff count start map).mp made
  intro count start same
  cases same
  have positive := map.count_pos
  have bank : map.start + map.count ≤ 64 := map.fits
  omega

theorem contiguous_of_channelsFit {count start : Nat} (fit : ChannelsFit (some (count, start))) :
    ∃ map, ChannelMap.contiguous count start = .ok map := by
  obtain ⟨counted, room⟩ := fit count start rfl
  obtain ⟨map, made, -⟩ := ChannelMap.contiguous_of_fits count start counted room
  exact ⟨map, made⟩

/-! ## Reading one argument -/

theorem mapError_eq_ok_iff {ε ε' α : Type} (told : ε → ε') (result : Except ε α) (value : α) :
    result.mapError told = .ok value ↔ result = .ok value := by
  constructor
  · intro taken
    cases result with
    | ok other =>
        cases taken
        rfl
    | error cause => cases taken
  · intro taken
    rw [taken]
    rfl

theorem readWord_eq_ok_iff (text : String) (word : UInt32) :
    readWord text = .ok word ↔ Decimal.Spells text.toList word.toNat := by
  rw [readWord, mapError_eq_ok_iff]
  exact Decimal.readU32_eq_ok_iff text word

theorem readCount_eq_ok_iff (text : String) (n : Nat) :
    readCount text = .ok n ↔ SpellsCount text n := by
  rw [readCount, mapError_eq_ok_iff]
  exact Decimal.read_eq_ok_iff (UInt64.size - 1) text n

theorem readCodec_eq_ok_iff (text : String) (codec : Codec) :
    readCodec text = .ok codec ↔
      text.toList.map Char.toLower = codec.name.toList.map Char.toLower := by
  rw [readCodec, mapError_eq_ok_iff, Codec.ofName]
  constructor
  · intro found
    split at found
    · next among =>
        cases found
        have same := List.find?_some among
        exact (beq_iff_eq.mp same).symm
    · cases found
  · intro same
    have folded : Codec.foldCase text = Codec.foldCase codec.name := same
    rw [folded]
    cases codec <;> rfl

/-! ## What a list of arguments leads to -/

def misread (name value cause : String) : Failure :=
  ⟨"invalid " ++ name ++ ": " ++ value, some cause⟩

inductive ChannelsRefused : List String → Failure → Prop where
  | count {channels cause : String} {more : List String} (unread : readCount channels = .error cause) :
      ChannelsRefused (channels :: more) (misread "channel count" channels cause)
  | start {channels offset cause : String} {more : List String} {count : Nat}
      (counted : SpellsCount channels count) (unread : readCount offset = .error cause) :
      ChannelsRefused (channels :: offset :: more) (misread "start offset" offset cause)
  | map {channels : String} {more : List String} {count start : Nat} {cause : CalculatorError}
      (counted : SpellsCount channels count) (started : SpeltStart more start)
      (refused : ChannelMap.contiguous count start = .error cause) :
      ChannelsRefused (channels :: more) ⟨cause.message, none⟩

/-- The first thing that is wrong with a list of arguments. -/
inductive Refused : List String → Failure → Prop where
  | usage {args : List String} (few : args.length < 3) : Refused args ⟨usage, none⟩
  | rate {rate tic encoding cause : String} {rest : List String}
      (unread : readWord rate = .error cause) :
      Refused (rate :: tic :: encoding :: rest) (misread "sample rate" rate cause)
  | tic {rate tic encoding cause : String} {rest : List String} {hz : UInt32}
      (rated : readWord rate = .ok hz) (unread : readWord tic = .error cause) :
      Refused (rate :: tic :: encoding :: rest) (misread "tic frame size" tic cause)
  | codec {rate tic encoding cause : String} {rest : List String} {hz ticFrameSize : UInt32}
      (rated : readWord rate = .ok hz) (timed : readWord tic = .ok ticFrameSize)
      (unread : readCodec encoding = .error cause) :
      Refused (rate :: tic :: encoding :: rest) (misread "codec" encoding cause)
  | clock {rate tic encoding : String} {rest : List String} {hz ticFrameSize : UInt32} {codec : Codec}
      {cause : CalculatorError} (rated : readWord rate = .ok hz) (timed : readWord tic = .ok ticFrameSize)
      (encoded : readCodec encoding = .ok codec)
      (refused : Clock.resolve hz ticFrameSize .reject = .error cause) :
      Refused (rate :: tic :: encoding :: rest) ⟨cause.message, none⟩
  | channels {rate tic encoding : String} {rest : List String} {hz ticFrameSize : UInt32}
      {codec : Codec} {clock : Clock} {failure : Failure} (rated : readWord rate = .ok hz)
      (timed : readWord tic = .ok ticFrameSize) (encoded : readCodec encoding = .ok codec)
      (made : Clock.resolve hz ticFrameSize .reject = .ok clock)
      (refused : ChannelsRefused rest failure) :
      Refused (rate :: tic :: encoding :: rest) failure

theorem spelt_or_misread_channels (args : List String) :
    (∃ channels, SpeltChannels args channels) ∨ ∃ failure, ChannelsRefused args failure := by
  cases args with
  | nil => exact .inl ⟨none, .omitted⟩
  | cons channels more =>
      cases counted : readCount channels with
      | error cause => exact .inr ⟨_, .count counted⟩
      | ok count =>
          rw [readCount_eq_ok_iff] at counted
          cases more with
          | nil => exact .inl ⟨_, .given counted .omitted⟩
          | cons offset rest =>
              cases started : readCount offset with
              | error cause => exact .inr ⟨_, .start counted started⟩
              | ok start =>
                  rw [readCount_eq_ok_iff] at started
                  exact .inl ⟨_, .given counted (.given started)⟩

theorem spelt_or_refused_channels (args : List String) :
    (∃ channels, SpeltChannels args channels ∧ ChannelsFit channels) ∨
      ∃ failure, ChannelsRefused args failure := by
  rcases spelt_or_misread_channels args with ⟨channels, spelt⟩ | refused
  · cases spelt with
    | omitted => exact .inl ⟨none, .omitted, nofun⟩
    | @given _ _ count start counted started =>
        cases made : ChannelMap.contiguous count start with
        | error cause => exact .inr ⟨_, .map counted started made⟩
        | ok map => exact .inl ⟨_, .given counted started, channelsFit_of_contiguous made⟩
  · exact .inr refused

theorem spelt_or_refused (args : List String) :
    (∃ request, Spelt args request ∧ request.Sound) ∨ ∃ failure, Refused args failure := by
  match args with
  | [] | [_] | [_, _] => exact .inr ⟨_, .usage (by simp)⟩
  | rate :: tic :: encoding :: rest =>
      cases rated : readWord rate with
      | error cause => exact .inr ⟨_, .rate rated⟩
      | ok hz =>
      cases timed : readWord tic with
      | error cause => exact .inr ⟨_, .tic rated timed⟩
      | ok ticFrameSize =>
      cases encoded : readCodec encoding with
      | error cause => exact .inr ⟨_, .codec rated timed encoded⟩
      | ok codec =>
      cases made : Clock.resolve hz ticFrameSize .reject with
      | error cause => exact .inr ⟨_, .clock rated timed encoded made⟩
      | ok clock =>
      rcases spelt_or_refused_channels rest with ⟨channels, spelt, fit⟩ | ⟨failure, refused⟩
      · obtain ⟨known, filled, -⟩ := Clock.runsAt_of_resolve made
        rw [readWord_eq_ok_iff] at rated timed
        rw [readCodec_eq_ok_iff] at encoded
        exact .inl ⟨⟨hz, ticFrameSize, codec, channels⟩, .given rated timed encoded spelt,
          known, filled, fit⟩
      · exact .inr ⟨failure, .channels rated timed encoded made refused⟩

end NetAudio.Report
