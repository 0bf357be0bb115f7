import NetAudio.Error

/-!
# Traffic classes

The IP differentiated-services codepoints that a source may mark its packets with.
-/

set_option autoImplicit false

namespace NetAudio

inductive Dscp where
  /-- Expedited forwarding. -/
  | ef
  | af41
  | af31
  | bestEffort
  deriving DecidableEq, Repr

namespace Dscp

def all : List Dscp := [.ef, .af41, .af31, .bestEffort]

def codepoint : Dscp → UInt8
  | .ef => 46
  | .af41 => 34
  | .af31 => 26
  | .bestEffort => 0

def label : Dscp → String
  | .ef => "EF"
  | .af41 => "AF41"
  | .af31 => "AF31"
  | .bestEffort => "BE"

def text (dscp : Dscp) : String :=
  s!"{dscp.codepoint.toNat} (" ++ dscp.label ++ ")"

def ofCodepoint (value : UInt8) : Except CalculatorError Dscp :=
  match all.find? fun dscp => dscp.codepoint == value with
  | some dscp => .ok dscp
  | none => .error (.unsupportedDscp value)

end Dscp

end NetAudio
