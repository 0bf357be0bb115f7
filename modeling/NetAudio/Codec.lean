import NetAudio.Error

/-!
# Sample encodings

The linear PCM encodings a stream may use, and the bytes one sample of one channel takes in a packet.
-/

set_option autoImplicit false

namespace NetAudio

inductive Codec where
  | l16
  | l24
  | am824
  deriving DecidableEq, Repr

namespace Codec

def all : List Codec := [.l16, .l24, .am824]

def name : Codec → String
  | .l16 => "L16"
  | .l24 => "L24"
  | .am824 => "AM824"

def bytesPerSample : Codec → UInt64
  | .l16 => 2
  | .l24 => 3
  | .am824 => 3

/-- A character with its ASCII upper-case letters lowered; all others stay. -/
def foldCase (text : String) : List Char :=
  text.toList.map Char.toLower

/-- The encoding with the given name, in any ASCII case. -/
def ofName (text : String) : Except CalculatorError Codec :=
  match all.find? fun codec => foldCase codec.name == foldCase text with
  | some codec => .ok codec
  | none => .error (.unknownCodec text)

end Codec

end NetAudio
