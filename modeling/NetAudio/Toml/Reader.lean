import NetAudio.Toml.Quoted
import NetAudio.Toml.Tree
import NetAudio.Toml.Word

/-!
# Reading TOML

A document is read into statements: headers of tables and entries.  Every reader gives what it has
read and the text that is left.
-/

set_option autoImplicit false

namespace NetAudio.Toml

/-! ## Blanks, comments and ends of lines -/

def skipBlanks (chars : List Char) : List Char := chars.dropWhile isBlank

/-- What stands after the end of the line, before which only blanks and a comment may stand. -/
def afterLine? (chars : List Char) : Option (List Char) :=
  let rest := match skipBlanks chars with
    | '#' :: comment => comment.dropWhile isPlain
    | rest => rest
  match rest with
  | [] => some []
  | '\n' :: rest => some rest
  | '\r' :: '\n' :: rest => some rest
  | _ => none

/-- Skips blanks, line breaks and comments. -/
def skipGap (inComment : Bool) : List Char → List Char
  | [] => []
  | '\n' :: rest => skipGap false rest
  | '\r' :: '\n' :: rest => skipGap false rest
  | '#' :: rest => skipGap true rest
  | c :: rest =>
    if isBlank c || (inComment && isPlain c) then skipGap inComment rest else c :: rest

/-! ## Names -/

def name? : List Char → Option (String × List Char)
  | '"' :: rest => (basic rest).map fun (chars, rest) => (String.ofList chars, rest)
  | '\x27' :: rest => (literal rest).map fun (chars, rest) => (String.ofList chars, rest)
  | chars =>
    let word := chars.takeWhile isBare
    if word.isEmpty then none else some (String.ofList word, chars.dropWhile isBare)

/-- Reads names between dots, at most as many as given. -/
def path? : Nat → List Char → Option (List String × List Char)
  | 0, _ => none
  | limit + 1, chars => do
    let (name, rest) ← name? (skipBlanks chars)
    match skipBlanks rest with
    | '.' :: rest =>
      let (names, rest) ← path? limit rest
      return (name :: names, rest)
    | rest => return ([name], rest)

/-- How deep names, arrays and tables may be nested. -/
def nesting : Nat := 79

/-! ## Values -/

mutual

/-- Reads a value that has at most `depth` containers inside one another. -/
def value? : (fuel depth : Nat) → List Char → Option (Toml × List Char)
  | 0, _, _ => none
  | fuel + 1, depth, '[' :: rest =>
    match depth with
    | 0 => none
    | depth + 1 => do
      let (items, rest) ← items? fuel depth rest
      return (.array items, rest)
  | fuel + 1, depth, '\x7b' :: rest =>
    match depth with
    | 0 => none
    | depth + 1 => do
      let (entries, rest) ← match skipBlanks rest with
        | '\x7d' :: rest => some ([], rest)
        | rest => entries? fuel depth rest
      return (← ofEntries? entries, rest)
  | _ + 1, _, chars =>
    match chars.head? with
    | some '"' | some '\x27' => do
      let (text, rest) ← string? chars
      return (.scalar (.string (String.ofList text)), rest)
    | _ => do
      let (word, rest) := cutWord chars
      return (.scalar (← ofWord? word), rest)

def items? : (fuel depth : Nat) → List Char → Option (List Toml × List Char)
  | 0, _, _ => none
  | fuel + 1, depth, chars =>
    match skipGap false chars with
    | ']' :: rest => some ([], rest)
    | chars => do
      let (item, rest) ← value? fuel depth chars
      match skipGap false rest with
      | ',' :: rest =>
        let (items, rest) ← items? fuel depth rest
        return (item :: items, rest)
      | ']' :: rest => return ([item], rest)
      | _ => none

def entries? : (fuel depth : Nat) → List Char → Option (List (List String × Toml) × List Char)
  | 0, _, _ => none
  | fuel + 1, depth, chars => do
    let (path, rest) ← path? nesting chars
    match rest with
    | '=' :: rest =>
      let (value, rest) ← value? fuel depth (skipBlanks rest)
      match skipBlanks rest with
      | ',' :: rest =>
        let (entries, rest) ← entries? fuel depth rest
        return ((path, value) :: entries, rest)
      | '\x7d' :: rest => return ([(path, value)], rest)
      | _ => none
    | _ => none

end

/-! ## Statements -/

/-- Reads the statement at the start of a line, up to where only a comment may follow. -/
def statement? (chars : List Char) : Option (Statement × List Char) :=
  match chars with
  | '[' :: '[' :: rest => do
    let (path, rest) ← path? nesting rest
    match rest with
    | ']' :: ']' :: rest => return (.nextHeader path, rest)
    | _ => none
  | '[' :: rest => do
    let (path, rest) ← path? nesting rest
    match rest with
    | ']' :: rest => return (.header path, rest)
    | _ => none
  | _ => do
    let (path, rest) ← path? nesting chars
    match rest with
    | '=' :: rest =>
      let (value, rest) ← value? (rest.length + 1) nesting (skipBlanks rest)
      return (.entry path value, rest)
    | _ => none

/-- Reads statements, each on a line of its own. -/
def statements? : (fuel : Nat) → List Char → Option (List Statement)
  | 0, _ => none
  | fuel + 1, chars =>
    match skipBlanks chars with
    | [] => some []
    | '\n' :: rest => statements? fuel rest
    | '\r' :: '\n' :: rest => statements? fuel rest
    | '#' :: rest => do statements? fuel (← afterLine? ('#' :: rest))
    | chars => do
      let (statement, rest) ← statement? chars
      return statement :: (← statements? fuel (← afterLine? rest))

/-- Reads a document, which may begin with a byte-order mark. -/
def read? (text : String) : Option Toml := do
  let chars := match text.toList with
    | '\uFEFF' :: rest => rest
    | chars => chars
  ofStatements? (← statements? (chars.length + 1) chars)

end NetAudio.Toml
