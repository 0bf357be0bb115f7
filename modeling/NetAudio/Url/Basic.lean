import NetAudio.Url.Authority

/-!
# URLs

An absolute URL is a scheme, a colon and what the scheme makes of the rest.  Spaces and control
characters around a URL do not count, nor do tabs and line breaks inside it.  Only the scheme and the
authority can be wrong; every path, query and fragment may stand behind them.
-/

set_option autoImplicit false

namespace NetAudio

structure Url where
  kind : Url.Kind
  authority : Option Url.Authority
  /-- The path, the query and the fragment. -/
  rest : List Char
  deriving DecidableEq, Repr

namespace Url

/-- The characters that do not count around a URL. -/
def isSurrounding (c : Char) : Bool := c.toNat ≤ 0x20

/-- The characters that do not count anywhere in a URL. -/
def isBreak (c : Char) : Bool := c = '\t' || c = '\n' || c = '\r'

/-- The characters of a text that count. -/
def significant (text : List Char) : List Char :=
  (((text.dropWhile isSurrounding).reverse.dropWhile isSurrounding).reverse).filter (!isBreak ·)

def isScheme (chars : List Char) : Bool :=
  chars.head?.any Char.isAlpha &&
    chars.all fun c => c.isAlphanum || c = '+' || c = '-' || c = '.'

def Kind.ofScheme (scheme : List Char) : Kind :=
  let word := String.ofList (scheme.map Char.toLower)
  if word = "file" then .file
  else if ["http", "https", "ws", "wss", "ftp"].contains word then .network
  else .other

def isSlash (c : Char) : Bool := c = '/' || c = '\\'

def Kind.ends (kind : Kind) (c : Char) : Bool :=
  c = '/' || c = '?' || c = '#' || (c = '\\' && kind != .other)

/-- Whether a host is a letter and a colon or bar, which begin a path. -/
def isDriveLetter : List Char → Bool
  | [letter, mark] => letter.isAlpha && (mark = ':' || mark = '|')
  | _ => false

def ofAuthority (kind : Kind) (chars : List Char) : Url where
  kind := kind
  authority := some (.ofChars (chars.takeWhile (!kind.ends ·)))
  rest := chars.dropWhile (!kind.ends ·)

/-- The URL whose file host begins here.  Such a host has neither user nor port. -/
def ofFileHost (chars : List Char) : Url :=
  let host := chars.takeWhile (!Kind.ends .file ·)
  if isDriveLetter host then ⟨.file, none, chars⟩
  else ⟨.file, some ⟨none, host, none⟩, chars.dropWhile (!Kind.ends .file ·)⟩

def ofRest (kind : Kind) (chars : List Char) : Url :=
  match kind with
  | .network => ofAuthority .network (chars.dropWhile isSlash)
  | .file =>
    match chars with
    | a :: b :: rest => if isSlash a && isSlash b then ofFileHost rest else ⟨.file, none, chars⟩
    | _ => ⟨.file, none, chars⟩
  | .other =>
    match chars with
    | '/' :: '/' :: rest => ofAuthority .other rest
    | _ => ⟨.other, none, chars⟩

def isValid (url : Url) : Bool := url.authority.all (·.isValid url.kind url.rest)

def ofText? (text : String) : Option Url :=
  match Text.cutFirst? ':' (significant text.toList) with
  | none => none
  | some (scheme, rest) =>
    let url := ofRest (.ofScheme scheme) rest
    if isScheme scheme && url.isValid then some url else none

def isAbsolute (text : String) : Bool := (ofText? text).isSome

end Url

end NetAudio
