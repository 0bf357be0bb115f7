import NetAudio.Url.Basic

/-!
# What a URL asks its host for

The path and the query of a network URL, as they are sent to the host.  In the path, backslashes count
as slashes, and dots that stand alone between slashes are resolved.
-/

set_option autoImplicit false

namespace NetAudio.Url

def isEscapedInPath (c : Char) : Bool := " \"#<>?`\x7b\x7d^".toList.contains c

def isEscapedInQuery (c : Char) : Bool := " \"#<>'".toList.contains c

/-- A part of a path with every `%2e` written as a dot. -/
def plainDots : List Char → List Char
  | '%' :: '2' :: 'e' :: rest => '.' :: plainDots rest
  | '%' :: '2' :: 'E' :: rest => '.' :: plainDots rest
  | c :: rest => c :: plainDots rest
  | [] => []

/-- The parts of a path after dots are resolved, given those before, latest first. -/
def resolveDots (before : List (List Char)) : List (List Char) → List (List Char)
  | [] => before.reverse
  | part :: rest =>
    let dots := plainDots part
    if dots = ['.', '.'] then
      if rest.isEmpty then (([] : List Char) :: before.drop 1).reverse
      else resolveDots (before.drop 1) rest
    else if dots = ['.'] then
      if rest.isEmpty then (([] : List Char) :: before).reverse else resolveDots before rest
    else resolveDots (part :: before) rest

def path (url : Url) : List Char :=
  let chars := (url.rest.takeWhile fun c => c ≠ '?' ∧ c ≠ '#').map fun c =>
    if c = '\\' then '/' else c
  let parts := resolveDots [] (Text.split '/' (chars.drop 1))
  '/' :: List.intercalate ['/'] (parts.map (Percent.encode isEscapedInPath))

/-- The query of a network URL with its question mark, if there is one. -/
def query (url : Url) : List Char :=
  match (url.rest.takeWhile (· ≠ '#')).dropWhile (· ≠ '?') with
  | [] => []
  | _ :: query => '?' :: Percent.encode isEscapedInQuery query

def target (url : Url) : String := String.ofList (url.path ++ url.query)

end NetAudio.Url
