import NetAudio.Json.Basic

/-!
# TOML values

A document is a table.  Floats and moments in time are kept as they are written: no setting is one.

A table is read as the JSON object with the same members.  Three things are wider than in JSON: a record
written as an array may have too many items, a word may be the only name of a table with nothing under it,
and a moment in time counts as a table without known names.
-/

set_option autoImplicit false

namespace NetAudio

/-- A value without parts. -/
inductive Toml.Scalar where
  | string (text : String)
  | integer (value : Int)
  | boolean (value : Bool)
  | float (text : String)
  /-- A date, a time of day, or both. -/
  | moment (text : String)
  deriving DecidableEq, Repr, Inhabited

/-- A value; the members of a table have different names. -/
inductive Toml where
  | scalar (value : Toml.Scalar)
  | array (items : List Toml)
  | table (members : List (String × Toml))
  deriving Inhabited

namespace Toml

def holdsInteger (value : Int) : Bool :=
  Int64.minValue.toInt ≤ value && value ≤ Int64.maxValue.toInt

/-- The characters that may stand in a document besides line breaks. -/
def isPlain (c : Char) : Bool := c = '\t' || (0x20 ≤ c.toNat && c.toNat ≠ 0x7F)

def isBlank (c : Char) : Bool := c = ' ' || c = '\t'

def isBare (c : Char) : Bool := c.isAlphanum || c = '_' || c = '-'

/-! ## As records -/

def Scalar.toJson : Scalar → Json
  | .string text => .string text
  | .integer value => .integer value
  | .boolean value => .bool value
  | .float text => .decimal text
  | .moment text => .object [("", .string text)]

mutual

def toJson : Toml → Json
  | .scalar value => value.toJson
  | .array items => .array (itemsToJson items)
  | .table members => .object (membersToJson members)

def itemsToJson : List Toml → List Json
  | [] => []
  | item :: rest => item.toJson :: itemsToJson rest

def membersToJson : List (String × Toml) → List (String × Json)
  | [] => []
  | (name, value) :: rest => (name, value.toJson) :: membersToJson rest

end

def isEmpty : Toml → Bool
  | .array items => items.isEmpty
  | .table members => members.isEmpty
  | .scalar _ => false

/-- A word, as a string. -/
def word : Toml → Toml
  | .table [(name, value)] => if value.isEmpty then .scalar (.string name) else .table [(name, value)]
  | other => other

def adjust (name : String) (change : Toml → Toml) : Toml → Toml
  | .table members =>
    .table (members.map fun (other, value) => (other, if other = name then change value else value))
  | other => other

/-- An array without the items past the given number. -/
def clip (count : Nat) : Toml → Toml
  | .array items => .array (items.take count)
  | other => other

def adjustItem (index : Nat) (change : Toml → Toml) : Toml → Toml
  | .array items => .array (items.modify index change)
  | other => other

end Toml

end NetAudio
