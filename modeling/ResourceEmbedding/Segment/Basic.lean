import ResourceEmbedding.Segment.Cost
import ResourceEmbedding.Segment.Failure
import ResourceEmbedding.Json.Form

namespace ResourceEmbedding

structure Segment where
  units : List UInt16
  encodedLength : Nat
deriving DecidableEq, Repr

namespace Segment

def ofUnits (units : List UInt16) : Segment :=
  ⟨units, unitsCost units⟩

def ofString (s : String) : Segment :=
  ofUnits (Utf16.ofString s)

def length (s : Segment) : Nat :=
  s.units.length

def unitAt (s : Segment) (index : Nat) : Except SegmentError UInt16 :=
  match s.units[index]? with
  | some u => .ok u
  | none => .error (.outOfBounds index s.length)

-- The units from `start` up to but without `stop`, measured anew.
def slice (s : Segment) (start stop : Nat) : Except SegmentError Segment :=
  if start ≤ stop ∧ stop ≤ s.length then .ok (ofUnits ((s.units.take stop).drop start))
  else .error (.invalidRange start stop s.length)

def toStringLossy (s : Segment) : String :=
  Utf16.toStringLossy s.units

def toString? (s : Segment) : Option String :=
  Utf16.toString? s.units

def toBytes? (s : Segment) : Option (List UInt8) :=
  s.units.mapM fun u => if u < 0x100 then some u.toUInt8 else none

instance : JsonForm Segment where
  toJson s := .object [("units", toJson s.units), ("encoded_len", toJson s.encodedLength)]
  ofJson? j := do
    return ⟨← j.required? "units", ← j.required? "encoded_len"⟩

end Segment

end ResourceEmbedding
