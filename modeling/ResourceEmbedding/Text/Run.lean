namespace ResourceEmbedding.Text

-- The code points `first`, `first + step`, … up to `last`.
structure Run where
  first : Nat
  last : Nat
  step : Nat
deriving DecidableEq, Repr

namespace Run

def contains (r : Run) (n : Nat) : Bool :=
  decide (r.first ≤ n) && decide (n ≤ r.last) && (n - r.first) % r.step == 0

def anyContains (runs : List Run) (n : Nat) : Bool :=
  runs.any (·.contains n)

end Run

-- Sends the members of a run, in order, to consecutive members of a run of the same step that
-- starts at `image`.
structure Shift where
  run : Run
  image : Nat
deriving DecidableEq, Repr

def Shift.imageOf? (shifts : List Shift) (n : Nat) : Option Nat :=
  (shifts.find? (·.run.contains n)).map fun s => s.image + (n - s.run.first)

end ResourceEmbedding.Text
