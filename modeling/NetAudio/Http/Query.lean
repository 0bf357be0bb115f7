import NetAudio.Text.Bytes
import NetAudio.Text.Decimal
import NetAudio.Text.Parts

/-!
# Queries

A query is a list of names and values: parts between `&`, each cut at its first `=`.  In both, `+`
stands for a space, and bytes may be percent-encoded.  Empty parts do not count.
-/

set_option autoImplicit false

namespace NetAudio.Http

def decodeWord (chars : List Char) : String :=
  let spaced := chars.map fun c => if c = '+' then ' ' else c
  String.ofList (Utf8.decodeLossy (Percent.decode spaced))

/-- The names of a query with their values, in order. -/
def queryFields (query : List Char) : List (String × String) :=
  ((Text.split '&' query).filter (!·.isEmpty)).map fun part =>
    match Text.cutFirst? '=' part with
    | some (name, value) => (decodeWord name, decodeWord value)
    | none => (decodeWord part, "")

/-- Why a query does not give the values that are asked for. -/
inductive QueryFault where
  | missing (name : String)
  | repeated (name : String)
  | malformed (name : String)
  deriving DecidableEq, Repr

/-- The value of a name that may be left out.  It may not come twice. -/
def optionalField {α : Type} (fields : List (String × String)) (name : String)
    (read : String → Except Decimal.Fault α) : Except QueryFault (Option α) :=
  match fields.filter (·.1 == name) with
  | [] => .ok none
  | [(_, value)] =>
    match read value with
    | .ok value => .ok (some value)
    | .error _ => .error (.malformed name)
  | _ => .error (.repeated name)

def requiredField {α : Type} (fields : List (String × String)) (name : String)
    (read : String → Except Decimal.Fault α) : Except QueryFault α := do
  match ← optionalField fields name read with
  | some value => return value
  | none => throw (.missing name)

end NetAudio.Http
