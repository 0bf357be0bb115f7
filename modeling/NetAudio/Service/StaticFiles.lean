import NetAudio.Http.Message
import NetAudio.Text.Bytes
import NetAudio.Text.Parts

/-!
# Static files

A directory of files that the service hands out.  A path is percent-decoded and may not lead out of
the directory.  A directory is asked for with a slash at the end and gives its `index.html`.
-/

set_option autoImplicit false

namespace NetAudio.Service

open Http

/-- Files by their place below the directory, with their text. -/
structure StaticFiles where
  files : List (List String × String)
  deriving DecidableEq, Repr

namespace StaticFiles

/-- The names on the way of a path, without empty ones and single dots. -/
def namesOf (path : List Char) : List String :=
  ((Text.split '/' path).filter fun name => !name.isEmpty && name != ['.']).map String.ofList

def ofList (files : List (String × String)) : StaticFiles :=
  ⟨files.map fun (name, text) => (namesOf name.toList, text)⟩

/-- The names that a requested path leads through, if it stays in the directory. -/
def place? (path : List Char) : Option (List String) := do
  let decoded ← Utf8.decode? (Percent.decode (path.dropWhile (· = '/')))
  let names := namesOf decoded
  if decoded.head? = some '/' ∨ names.contains ".." then none else some names

def file? (directory : StaticFiles) (place : List String) : Option String :=
  directory.files.lookup place

def isDirectory (directory : StaticFiles) (place : List String) : Bool :=
  place.isEmpty ||
    directory.files.any fun (name, _) => place.length < name.length && place.isPrefixOf name

/-- Whether a name is one that no file can have. -/
def isImpossible (name : String) : Bool := name.contains '\x00' || 255 < name.utf8ByteSize

def respond (directory : StaticFiles) (request : Request) : Response :=
  if ¬["GET", "HEAD"].contains request.method then .empty 405
  else match place? request.target.path with
    | none => .empty 404
    | some place =>
      let found (place : List String) : Response :=
        match directory.file? place with
        | some text => ⟨200, .text text⟩
        | none => .empty 404
      if place.any isImpossible then .empty 500
      else if directory.isDirectory place then
        if request.target.path.getLast? = some '/' then found (place ++ ["index.html"])
        else .empty 307
      else found place

end StaticFiles

end NetAudio.Service
