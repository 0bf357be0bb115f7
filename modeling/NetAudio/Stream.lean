import NetAudio.Stream.Sink
import NetAudio.Stream.Source

/-!
# Streams

A daemon manages a fixed number of sources and as many sinks, each under an id of its own.  An update is a
record of either kind.
-/

set_option autoImplicit false

namespace NetAudio

/-- How many sources, and how many sinks, a daemon manages. -/
def maxStreams : Nat := 64

/-- The direction of a stream. -/
inductive StreamKind where
  | source
  | sink
  deriving DecidableEq, Repr

def StreamKind.title : StreamKind → String
  | .source => "Source"
  | .sink => "Sink"

/-- A mark for each id that a daemon manages. -/
abbrev IdMarks := Vector Bool maxStreams

/-- Marks an id.  An id past the last that is managed has no mark. -/
def IdMarks.mark (marks : IdMarks) (id : UInt8) : IdMarks :=
  marks.setIfInBounds id.toNat true

/-- The smallest id that is not in use, if one is left. -/
def firstFreeId (used : List UInt8) : Option UInt8 :=
  let marks := used.foldl IdMarks.mark (.replicate maxStreams false)
  (marks.toList.findIdx? (!·)).map UInt8.ofNat

/-- What a form sends to the daemon when it is submitted. -/
inductive StreamUpdate where
  | source (record : Source)
  | sink (record : Sink)
  deriving DecidableEq, Repr

namespace StreamUpdate

def id : StreamUpdate → UInt8
  | .source record => record.id
  | .sink record => record.id

def kind : StreamUpdate → StreamKind
  | .source _ => .source
  | .sink _ => .sink

end StreamUpdate

end NetAudio
