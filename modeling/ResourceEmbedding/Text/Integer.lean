import ResourceEmbedding.Text.Blank
import ResourceEmbedding.Text.Digits

namespace ResourceEmbedding.Text

-- An integer from `least` to `greatest`. A minus sign is allowed only if `least` is negative.
def integer? (least greatest : Int) (s : String) : Option Int := do
  let n : Int ← match s.toList with
    | '+' :: rest => (digits? rest).map Int.ofNat
    | '-' :: rest => if least < 0 then (digits? rest).map fun n => -Int.ofNat n else none
    | cs => (digits? cs).map Int.ofNat
  if least ≤ n ∧ n ≤ greatest then some n else none

-- A size: a natural number of 64 bits.
def size? (s : String) : Option Nat :=
  (integer? 0 0xFFFFFFFFFFFFFFFF s).map Int.toNat

end ResourceEmbedding.Text
