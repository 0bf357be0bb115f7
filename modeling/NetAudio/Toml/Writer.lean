import NetAudio.Text.Bytes
import NetAudio.Toml.Basic

/-!
# Writing TOML

A document is written as sections: a header and one entry a line, with an empty line between
sections.  A string takes the first spelling that shows it as it is, of: basic, literal, basic over
several lines, literal over several lines; if none does, it is escaped.
-/

set_option autoImplicit false

namespace NetAudio.Toml

/-! ## Strings -/

def needsEscape (c : Char) : Bool :=
  (c.toNat < 0x20 && c != '\t' && c != '\n') || c.toNat = 0x7F

/-- The length of the longest run of a character, where `run` of them stand before. -/
def longestRun (c : Char) (run : Nat) : List Char → Nat
  | [] => run
  | d :: rest => if d = c then longestRun c (run + 1) rest else max run (longestRun c 0 rest)

/-- The spellings of strings. -/
inductive Spelling where
  | basic
  | literal
  | basicLines
  | literalLines
  deriving DecidableEq, Repr

def Spelling.shows (spelling : Spelling) (chars : List Char) : Bool :=
  !chars.any needsEscape &&
    match spelling with
    | .basic => !chars.contains '\\' && !chars.contains '"' && !chars.contains '\n'
    | .literal => !chars.contains '\x27' && !chars.contains '\n'
    | .basicLines => !chars.contains '\\' && longestRun '"' 0 chars ≤ 2
    | .literalLines => longestRun '\x27' 0 chars ≤ 2

def Spelling.of (chars : List Char) : Spelling :=
  match [basic, literal, basicLines, literalLines].find? (·.shows chars) with
  | some spelling => spelling
  | none => if chars.contains '\n' then .basicLines else .basic

/-- A character of a basic string other than a quote or a line break. -/
def escape (c : Char) : List Char :=
  match c with
  | '\x08' => ['\\', 'b']
  | '\t' => ['\\', 't']
  | '\x0c' => ['\\', 'f']
  | '\r' => ['\\', 'r']
  | '\\' => ['\\', '\\']
  | c =>
    if needsEscape c then
      ['\\', 'u', '0', '0', Percent.hexDigit (c.toNat / 16), Percent.hexDigit (c.toNat % 16)]
    else [c]

def basicBody (chars : List Char) : List Char :=
  chars.flatMap fun c => if c = '"' then ['\\', '"'] else if c = '\n' then ['\\', 'n'] else escape c

/-- The characters between the quotes of a basic string over several lines, where `run` quotes stand
before.  Every third quote in a row is escaped. -/
def basicLinesBody (run : Nat) : List Char → List Char
  | [] => []
  | c :: rest =>
    if c = '"' then
      if run = 2 then '\\' :: '"' :: basicLinesBody 0 rest else '"' :: basicLinesBody (run + 1) rest
    else if c = '\n' then '\n' :: basicLinesBody 0 rest
    else escape c ++ basicLinesBody 0 rest

/-- A string over several lines begins with a line break if it holds one. -/
def leadingBreak (chars : List Char) : List Char := if chars.contains '\n' then ['\n'] else []

def quoted (chars : List Char) : List Char :=
  match Spelling.of chars with
  | .basic => '"' :: basicBody chars ++ ['"']
  | .literal => '\x27' :: chars ++ ['\x27']
  | .basicLines =>
    ['"', '"', '"'] ++ leadingBreak chars ++ basicLinesBody 0 chars ++ ['"', '"', '"']
  | .literalLines =>
    ['\x27', '\x27', '\x27'] ++ leadingBreak chars ++ chars ++ ['\x27', '\x27', '\x27']

/-! ## Documents -/

def Scalar.write : Scalar → List Char
  | .string text => quoted text.toList
  | .integer value => (toString value).toList
  | .boolean true => "true".toList
  | .boolean false => "false".toList
  | .float text | .moment text => text.toList

/-- Entries under a header.  All names are bare. -/
structure Section where
  name : String
  entries : List (String × Scalar)
  deriving DecidableEq, Repr

def writeEntry (name : String) (value : Scalar) : List Char :=
  name.toList ++ " = ".toList ++ value.write ++ ['\n']

def Section.write (part : Section) : List Char :=
  '[' :: part.name.toList ++ [']', '\n'] ++
    part.entries.flatMap fun (name, value) => writeEntry name value

def write (sections : List Section) : String :=
  String.ofList (List.intercalate ['\n'] (sections.map Section.write))

end NetAudio.Toml
