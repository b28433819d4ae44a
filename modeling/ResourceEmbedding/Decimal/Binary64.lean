namespace ResourceEmbedding

inductive Binary64
  | nan
  | infinite (negative : Bool)
  -- `mantissa · 2 ^ exponent`. The mantissa has at most 53 bits, and fewer than 53 only with the
  -- least exponent.
  | finite (negative : Bool) (mantissa : Nat) (exponent : Int)
deriving DecidableEq, Repr

namespace Binary64

def leastExponent : Int := -1074

def greatestExponent : Int := 971

-- `numerator / denominator` as a natural number; a half goes to the even neighbour.
def roundHalfEven (numerator denominator : Nat) : Nat :=
  let quotient := numerator / denominator
  let remainder := numerator % denominator
  if 2 * remainder < denominator then quotient
  else if denominator < 2 * remainder then quotient + 1
  else quotient + quotient % 2

-- The number nearest to `numerator / denominator`, which is positive.
def ofRatio (negative : Bool) (numerator denominator : Nat) : Binary64 :=
  let scaled (round : Nat → Nat → Nat) (exponent : Int) : Nat :=
    round (numerator * Nat.pow 2 (-exponent).toNat) (denominator * Nat.pow 2 exponent.toNat)
  let guess := max leastExponent ((numerator.log2 : Int) - denominator.log2 - 53)
  let exponent := if Nat.pow 2 53 ≤ scaled (· / ·) guess then guess + 1 else guess
  let mantissa := scaled roundHalfEven exponent
  let carried := decide (mantissa = Nat.pow 2 53)
  let exponent := if carried then exponent + 1 else exponent
  if greatestExponent < exponent then infinite negative
  else finite negative (if carried then Nat.pow 2 52 else mantissa) exponent

-- The number nearest to `digits · 10 ^ power`. Beyond the bounds on the size of the decimal its
-- exact value does not matter any more.
def ofDecimal (negative : Bool) (digits : Nat) (power : Int) : Binary64 :=
  let size := (Nat.toDigits 10 digits).length + power
  if digits = 0 ∨ size < -330 then finite negative 0 leastExponent
  else if 310 < size then infinite negative
  else ofRatio negative (digits * Nat.pow 10 power.toNat) (Nat.pow 10 (-power).toNat)

end Binary64

end ResourceEmbedding
