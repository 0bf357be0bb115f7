/-!
# JSON documents

A document is the tree that a left-to-right reader sees.  Objects keep their members in order and
with repetitions.  Two leaves stand for text that is no value: `void`, a finished literal that
nothing can hold (a number past the double range, a string with an unpaired surrogate), and `cut`,
the point where the text stops being JSON; nothing is known of what comes after it.
-/

set_option autoImplicit false

namespace NetAudio

inductive Json where
  | null
  | bool (value : Bool)
  /-- A number written without fraction and exponent, and not as `-0`. -/
  | integer (value : Int)
  /-- Any other number, as it is written. -/
  | decimal (text : String)
  | string (value : String)
  | array (items : List Json)
  | object (members : List (String × Json))
  | void
  | cut
  deriving Inhabited

namespace Json

def ofNat (n : Nat) : Json := .integer n

/-- The last member with the given name. -/
def field? (name : String) : Json → Option Json
  | .object members => (members.reverse.find? fun member => member.1 == name).map (·.2)
  | _ => none

mutual

/-- Whether the document was read to its end. -/
def intact : Json → Bool
  | .array items => intactItems items
  | .object members => intactMembers members
  | .cut => false
  | _ => true

def intactItems : List Json → Bool
  | [] => true
  | item :: rest => item.intact && intactItems rest

def intactMembers : List (String × Json) → Bool
  | [] => true
  | (_, value) :: rest => value.intact && intactMembers rest

end

end Json

end NetAudio
