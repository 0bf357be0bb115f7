import NetAudio.Json.Token

/-!
# Reading JSON

Tokens are taken one at a time over a stack of the arrays and objects that are still open.  Where
no further token fits, everything open is closed over a `cut`, so that reading always gives a
document: the part that could be read.
-/

set_option autoImplicit false

namespace NetAudio.Json

/-- An array or object that is still open: what it holds so far, latest first, and for an object
the name whose value comes next. -/
inductive Frame where
  | array (done : List Json)
  | object (done : List (String × Json)) (name : String)

/-- Puts a value into the open containers around it and closes them over a `cut`. -/
def closeOver : List Frame → Json → Json
  | [], value => value
  | .array done :: rest, value => closeOver rest (.array (done.reverse ++ [value]))
  | .object done name :: rest, value =>
    closeOver rest (.object (done.reverse ++ [(name, value)]))

/-- What may come next. -/
inductive Expect where
  | value
  /-- The first item of an array, or its end. -/
  | itemOrEnd
  /-- The first name of an object, or its end. -/
  | nameOrEnd (done : List (String × Json))
  | name (done : List (String × Json))
  | colon (done : List (String × Json)) (name : String)
  /-- A value is finished: a comma or the end of its container. -/
  | after (value : Json)

/-- A document and whether text follows it. -/
structure Document where
  root : Json
  followed : Bool

/-- Gives up: the open containers are closed over a `cut`. -/
def giveUp (stack : List Frame) : Expect → Document
  | .value | .itemOrEnd => ⟨closeOver stack .cut, false⟩
  | .nameOrEnd done | .name done => ⟨closeOver (.object done "" :: stack) .cut, false⟩
  | .colon done name => ⟨closeOver (.object done name :: stack) .cut, false⟩
  | .after value =>
    match stack with
    | [] => ⟨value, false⟩
    | .array done :: rest => ⟨closeOver (.array (value :: done) :: rest) .cut, false⟩
    | .object done name :: rest =>
      ⟨closeOver (.object ((name, value) :: done) "" :: rest) .cut, false⟩

/-- The document of the tokens that are left.  A name with an unpaired surrogate cuts it, also in a member
that nobody would ask for. -/
def build (stack : List Frame) (expect : Expect) : List Token → Document
  | [] => giveUp stack expect
  | token :: rest =>
    match expect, token with
    | .value, .scalar value | .itemOrEnd, .scalar value => build stack (.after value) rest
    | .value, .string text | .itemOrEnd, .string text =>
      build stack (.after (match text with | some s => .string s | none => .void)) rest
    | .value, .openArray | .itemOrEnd, .openArray => build (.array [] :: stack) .itemOrEnd rest
    | .value, .openObject | .itemOrEnd, .openObject => build stack (.nameOrEnd []) rest
    | .itemOrEnd, .closeArray =>
      match stack with
      | .array done :: outer => build outer (.after (.array done.reverse)) rest
      | _ => giveUp stack expect
    | .nameOrEnd done, .closeObject => build stack (.after (.object done.reverse)) rest
    | .nameOrEnd done, .string (some name) | .name done, .string (some name) =>
      build stack (.colon done name) rest
    | .colon done name, .colon => build (.object done name :: stack) .value rest
    | .after value, _ =>
      match stack, token with
      | [], _ => ⟨value, true⟩
      | .array done :: outer, .comma => build (.array (value :: done) :: outer) .value rest
      | .array done :: outer, .closeArray =>
        build outer (.after (.array (value :: done).reverse)) rest
      | .object done name :: outer, .comma => build outer (.name ((name, value) :: done)) rest
      | .object done name :: outer, .closeObject =>
        build outer (.after (.object ((name, value) :: done).reverse)) rest
      | _, _ => giveUp stack expect
    | _, _ => giveUp stack expect

def read (text : String) : Document := build [] .value (tokens text)

/-- Reads a text that is one document and nothing else; text after it turns the whole into a `cut`. -/
def readWhole (text : String) : Json :=
  let document := read text
  if document.followed then .cut else document.root

end NetAudio.Json
