import NetAudio.Text.Bytes
import NetAudio.Text.Parts
import NetAudio.Url.DomainTable
import NetAudio.Url.Punycode

/-!
# Domain names in URLs

A domain may be percent-encoded and may hold characters past ASCII, some of which stand for ASCII
characters or for nothing.  It holds no blanks, control characters or characters that delimit the
parts of a URL, and each of its labels is well formed.
-/

set_option autoImplicit false

namespace NetAudio.Url

def isWithin (ranges : List (Nat × Nat)) (c : Char) : Bool :=
  ranges.any fun (low, high) => low ≤ c.toNat && c.toNat ≤ high

/-- The ASCII characters that a character past ASCII stands for, if any. -/
def asciiForm? (c : Char) : Option (List Char) :=
  let single := asciiForms.findSome? fun (first, forms) =>
    if first ≤ c.toNat then forms.toList[c.toNat - first]? else none
  match single with
  | some form => some [form]
  | none => (asciiTexts.find? (·.1 = c.toNat)).map (·.2.toList)

/-- The characters that a character stands for in a domain. -/
def domainChars? (c : Char) : Option (List Char) :=
  if c.toNat < 0x80 then some [c.toLower]
  else if isWithin excludedInDomains c then none
  else if isWithin ignoredInDomains c then some []
  else some ((asciiForm? c).getD [c])

def isDomainChar (c : Char) : Bool :=
  domainChars? c = some [c]

def isForbiddenInDomain (c : Char) : Bool :=
  c.toNat ≤ 0x20 || c.toNat = 0x7F || "%#/:<>?@[\\]^|".toList.contains c

/-- The characters of a label, which are written in Punycode after `xn--`. -/
def labelChars? : List Char → Option (List Char)
  | 'x' :: 'n' :: '-' :: '-' :: code => do
    let chars ← Punycode.decode? code
    if chars.all isDomainChar && chars.any (0x80 ≤ ·.toNat) then some chars else none
  | label => some label

/-- Whether a label is well formed: it begins with no mark. -/
def isLabel (label : List Char) : Bool :=
  match labelChars? label with
  | none => false
  | some chars => !chars.head?.any (isWithin marks)

/-- The characters of the domain that a host is written for.  The rules on the direction of writing, on
joiners and on composed characters are not applied: a domain that breaks only one of these is taken. -/
def domain? (host : List Char) : Option (List Char) := do
  let written ← Utf8.decode? (Percent.decode host)
  let chars := (← written.mapM domainChars?).flatten
  if chars.isEmpty || chars.any isForbiddenInDomain then none
  else if (Text.split '.' chars).all isLabel then some chars
  else none

end NetAudio.Url
