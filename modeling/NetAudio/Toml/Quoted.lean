import NetAudio.Text.Bytes
import NetAudio.Toml.Basic

/-!
# TOML strings

Four spellings: basic strings in `"`, with escapes; literal strings in `'`, without; and both with
tripled quotes, which may hold line breaks and one or two quotes in a row.  A line break right after
the opening three quotes does not count.  Every reader takes the text after the opening quotes and
gives the characters of the string and what stands after the closing quotes.
-/

set_option autoImplicit false

namespace NetAudio.Toml

/-- The characters of a string and the text after it. -/
abbrev Cut := Option (List Char × List Char)

/-- Puts a character before the string that is read from the rest. -/
def Cut.cons (c : Char) (cut : Cut) : Cut := cut.map fun (chars, rest) => (c :: chars, rest)

/-! ## Literal strings -/

def literal : List Char → Cut
  | [] => none
  | c :: rest =>
    if c = '\x27' then some ([], rest) else if isPlain c then (literal rest).cons c else none

def literalLines : List Char → Cut
  | '\x27' :: '\x27' :: '\x27' :: '\x27' :: '\x27' :: rest => some (['\x27', '\x27'], rest)
  | '\x27' :: '\x27' :: '\x27' :: '\x27' :: rest => some (['\x27'], rest)
  | '\x27' :: '\x27' :: '\x27' :: rest => some ([], rest)
  | '\r' :: '\n' :: rest => (literalLines rest).cons '\n'
  | c :: rest => if isPlain c || c = '\n' then (literalLines rest).cons c else none
  | [] => none

/-! ## Basic strings -/

/-- The character with the given number, if there is one. -/
def charOf? (digits : List Char) : Option Char := do
  let value ← digits.foldlM (fun value c => (Percent.hexValue? c).map (value * 16 + ·)) 0
  if h : value.isValidChar then some (Char.ofNatAux value h) else none

/-- The character that one letter after a backslash stands for. -/
def escaped? : Char → Option Char
  | 'b' => some '\x08'
  | 't' => some '\t'
  | 'n' => some '\n'
  | 'f' => some '\x0c'
  | 'r' => some '\r'
  | '"' => some '"'
  | '\\' => some '\\'
  | _ => none

def basic : List Char → Cut
  | '"' :: rest => some ([], rest)
  | '\\' :: 'u' :: a :: b :: c :: d :: rest =>
    (charOf? [a, b, c, d]).bind fun char => (basic rest).cons char
  | '\\' :: 'U' :: a :: b :: c :: d :: e :: f :: g :: h :: rest =>
    (charOf? [a, b, c, d, e, f, g, h]).bind fun char => (basic rest).cons char
  | '\\' :: c :: rest => (escaped? c).bind fun char => (basic rest).cons char
  | c :: rest => if isPlain c then (basic rest).cons c else none
  | [] => none

/-- What a reader of several lines is about: the string itself, the blanks between a backslash and
the end of its line, or the blanks and line breaks after that. -/
inductive LineMode where
  | text
  | lineEnd
  | margin
  deriving DecidableEq, Repr

/-- Whether nothing but blanks stands before the end of the line. -/
def endsLine : List Char → Bool
  | '\n' :: _ => true
  | '\r' :: '\n' :: _ => true
  | c :: rest => isBlank c && endsLine rest
  | [] => false

def basicLines (mode : LineMode) : List Char → Cut
  | '"' :: '"' :: '"' :: '"' :: '"' :: rest => some (['"', '"'], rest)
  | '"' :: '"' :: '"' :: '"' :: rest => some (['"'], rest)
  | '"' :: '"' :: '"' :: rest => some ([], rest)
  | '\r' :: '\n' :: rest =>
    match mode with
    | .text => (basicLines .text rest).cons '\n'
    | .lineEnd | .margin => basicLines .margin rest
  | '\n' :: rest =>
    match mode with
    | .text => (basicLines .text rest).cons '\n'
    | .lineEnd | .margin => basicLines .margin rest
  | '\\' :: 'u' :: a :: b :: c :: d :: rest =>
    (charOf? [a, b, c, d]).bind fun char => (basicLines .text rest).cons char
  | '\\' :: 'U' :: a :: b :: c :: d :: e :: f :: g :: h :: rest =>
    (charOf? [a, b, c, d, e, f, g, h]).bind fun char => (basicLines .text rest).cons char
  | '\\' :: c :: rest =>
    if endsLine (c :: rest) then basicLines .lineEnd (c :: rest)
    else (escaped? c).bind fun char => (basicLines .text rest).cons char
  | c :: rest =>
    if isBlank c && mode != .text then basicLines mode rest
    else if isPlain c then (basicLines .text rest).cons c
    else none
  | [] => none

/-! ## Any string -/

/-- The text after a line break, if it begins with one. -/
def skipBreak : List Char → List Char
  | '\n' :: rest => rest
  | '\r' :: '\n' :: rest => rest
  | chars => chars

/-- Reads a string of any spelling; `none` if the text does not begin with one. -/
def string? : List Char → Cut
  | '"' :: '"' :: '"' :: rest => basicLines .text (skipBreak rest)
  | '"' :: rest => basic rest
  | '\x27' :: '\x27' :: '\x27' :: rest => literalLines (skipBreak rest)
  | '\x27' :: rest => literal rest
  | _ => none

end NetAudio.Toml
