/-!
# Parts of texts

Lists of characters cut at a separator: the parts joined again with the separator are the list.  And texts
without the white space at their ends, which is what has the Unicode property White_Space.
-/

set_option autoImplicit false

namespace NetAudio.Text

/-- The parts between the separators; a list without separator is one part. -/
def split (separator : Char) : List Char → List (List Char)
  | [] => [[]]
  | c :: rest =>
    if c = separator then [] :: split separator rest
    else match split separator rest with
      | [] => [[c]]
      | part :: parts => (c :: part) :: parts

/-- What stands before and after the first separator. -/
def cutFirst? (separator : Char) (chars : List Char) : Option (List Char × List Char) :=
  match chars.dropWhile (· ≠ separator) with
  | [] => none
  | _ :: after => some (chars.takeWhile (· ≠ separator), after)

/-- What stands before and after the last separator. -/
def cutLast? (separator : Char) (chars : List Char) : Option (List Char × List Char) :=
  (cutFirst? separator chars.reverse).map fun (after, before) => (before.reverse, after.reverse)

/-! ## White space -/

/-- The code points with the property White_Space, as ranges with both ends included. -/
def whiteSpace : List (Nat × Nat) :=
  [(0x09, 0x0D), (0x20, 0x20), (0x85, 0x85), (0xA0, 0xA0), (0x1680, 0x1680), (0x2000, 0x200A),
    (0x2028, 0x2029), (0x202F, 0x202F), (0x205F, 0x205F), (0x3000, 0x3000)]

def isWhiteSpace (c : Char) : Bool :=
  whiteSpace.any fun (first, last) => first ≤ c.toNat && c.toNat ≤ last

/-- A text without the white space at both ends. -/
def trim (text : String) : String :=
  String.ofList ((text.toList.dropWhile isWhiteSpace).reverse.dropWhile isWhiteSpace).reverse

end NetAudio.Text
