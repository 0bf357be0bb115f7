/-!
# Media types

A media type is a type, a slash and a subtype, and then parameters after `;`: a name, `=` and a value,
which may be quoted.  A subtype may carry a suffix after its last `+`.
-/

set_option autoImplicit false

namespace NetAudio.Http

/-- The characters of types, names and unquoted values. -/
def isTokenChar (c : Char) : Bool := c.isAlphanum || "!#$%&'*+-.^_`|~".toList.contains c

def isQuotedChar (c : Char) : Bool := 0x20 ≤ c.toNat && c.toNat < 0x7F

/-- Where a reader of parameters is. -/
inductive ParameterMode where
  /-- Before a name. -/
  | start
  /-- In a name that is not empty. -/
  | name
  /-- At the start of a value. -/
  | value
  /-- In an unquoted value that is not empty. -/
  | word
  /-- In a quoted value; whether it is empty so far. -/
  | quoted (empty : Bool)
  /-- After a backslash in a quoted value. -/
  | escaped
  /-- After a quoted value. -/
  | after
  deriving DecidableEq, Repr

namespace ParameterMode

def step (mode : ParameterMode) (c : Char) : Option ParameterMode :=
  match mode with
  | start => if c = ' ' then some start else if isTokenChar c then some name else none
  | name => if c = '=' then some value else if isTokenChar c then some name else none
  | value => if c = '"' then some (quoted true) else if isTokenChar c then some word else none
  | word => if c = ';' then some start else if isTokenChar c then some word else none
  | quoted empty =>
    if c = '"' ∧ empty = false then some after
    else if c = '\\' then some escaped
    else if isQuotedChar c then some (quoted false)
    else none
  | escaped => if isQuotedChar c then some (quoted false) else none
  | after => if c = ';' then some start else if c = ' ' then some after else none

/-- Whether the text may end here. -/
def mayEnd : ParameterMode → Bool
  | start | value | word | after => true
  | name | quoted _ | escaped => false

end ParameterMode

def areParameters (chars : List Char) : Bool :=
  (chars.foldlM ParameterMode.step .start).any ParameterMode.mayEnd

structure MediaType where
  type : String
  subtype : String
  suffix : Option String
  deriving DecidableEq, Repr

/-- The media type that a text is, in lower case. -/
def MediaType.ofText? (text : String) : Option MediaType :=
  let chars := text.toList
  let type := chars.takeWhile isTokenChar
  match chars.dropWhile isTokenChar with
  | '/' :: rest =>
    let full := rest.takeWhile isTokenChar
    let after := rest.dropWhile isTokenChar
    let terminated := match after with
      | [] => true
      | c :: parameters => (c = ';' || c = ' ') && areParameters parameters
    if type.isEmpty ∨ full.isEmpty ∨ !terminated then none
    else
      let lower (chars : List Char) : String := String.ofList (chars.map Char.toLower)
      -- A plus at the very start belongs to the subtype.
      match ((full.drop 1).reverse.dropWhile (· ≠ '+')) with
      | [] => some ⟨lower type, lower full, none⟩
      | _ :: before =>
        let name := full.take 1 ++ before.reverse
        some ⟨lower type, lower name, some (lower (full.drop (name.length + 1)))⟩
  | _ => none

def MediaType.isJson (type : MediaType) : Bool :=
  type.type == "application" && (type.subtype == "json" || type.suffix == some "json")

def announcesJson (header : Option String) : Bool :=
  header.any fun text => (MediaType.ofText? text).any (·.isJson)

end NetAudio.Http
