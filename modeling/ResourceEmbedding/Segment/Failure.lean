namespace ResourceEmbedding

inductive StreamFailureKind
  | notFound
  | permissionDenied
  | interrupted
  | unexpectedEnd
  | isDirectory
  | notADirectory
  | other
deriving DecidableEq, Repr

structure StreamFailure where
  kind : StreamFailureKind
  message : String
deriving DecidableEq, Repr

inductive SegmentError
  | invalidConfig (reason : String)
  | outOfBounds (index length : Nat)
  | invalidRange (start stop length : Nat)
  -- The source stops being UTF-8 at a byte offset.
  | invalidUtf8 (offset : Nat)
  -- The segment of this index holds half a surrogate pair.
  | splitSurrogate (segment : Nat)
  | stream (failure : StreamFailure)
deriving DecidableEq, Repr

namespace SegmentError

def message : SegmentError → String
  | invalidConfig reason => s!"Invalid configuration: {reason}"
  | outOfBounds index length => s!"Index out of bounds: index={index}, len={length}"
  | invalidRange start stop length =>
    s!"Invalid segment range: start={start}, end={stop}, len={length}"
  | invalidUtf8 offset => s!"Invalid UTF-8 in source at byte offset {offset}"
  | splitSurrogate segment =>
    s!"Segment {segment} splits a surrogate pair; max_bytes must be at least 6 to keep it whole"
  | stream failure => s!"IO error: {failure.message}"

def isStream : SegmentError → Bool
  | stream _ => true
  | _ => false

end SegmentError

end ResourceEmbedding
