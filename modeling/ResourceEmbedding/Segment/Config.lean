import ResourceEmbedding.Segment.Failure
import ResourceEmbedding.Json.Form

namespace ResourceEmbedding

inductive SourceEncoding
  | utf8
  -- Any bytes, each read as the code unit of the same value.
  | latin1
deriving DecidableEq, Repr

namespace SourceEncoding

def all : List SourceEncoding := [.utf8, .latin1]

def name : SourceEncoding → String
  | .utf8 => "utf8"
  | .latin1 => "latin1"

instance : JsonForm SourceEncoding := .ofNames all name

end SourceEncoding

-- One less than 16 bits can count.
def defaultBudget : Nat := 65534

-- The size of the most expensive code unit.
def leastBudget : Nat := 3

structure SegmentConfig where
  maxBytes : Nat := defaultBudget
  encoding : SourceEncoding := .utf8
deriving DecidableEq, Repr

namespace SegmentConfig

def problem? (config : SegmentConfig) : Option String :=
  if config.maxBytes < leastBudget then
    some s!"max_bytes ({config.maxBytes}) must be at least {leastBudget} to hold any code unit"
  else none

instance : JsonForm SegmentConfig where
  toJson c := .object [("max_bytes", toJson c.maxBytes), ("source_encoding", toJson c.encoding)]
  ofJson? j := do
    return ⟨← j.required? "max_bytes", ← j.required? "source_encoding"⟩

end SegmentConfig

end ResourceEmbedding
