import ResourceEmbedding.Decimal.Binary64

namespace ResourceEmbedding.Binary64

-- The multiple of `10 ^ power` that reads back as `mantissa · 2 ^ exponent`, if there is one; of
-- two the nearer one, and the upper one if they are equally near. It suffices to look at the two
-- multiples around the number. The numbers that read back lie half a unit of the mantissa to each
-- side, or a quarter below a power of two; the ends count if the mantissa is even.
def onGrid? (mantissa : Nat) (exponent power : Int) : Option Nat :=
  let step := Nat.pow 10 power.toNat * Nat.pow 2 (2 - exponent).toNat
  let quarter := Nat.pow 10 (-power).toNat * Nat.pow 2 (exponent - 2).toNat
  let value := 4 * mantissa * quarter
  let low := (4 * mantissa - if mantissa = Nat.pow 2 52 then 1 else 2) * quarter
  let high := (4 * mantissa + 2) * quarter
  let readsBack (n : Nat) : Bool :=
    if mantissa % 2 = 0 then decide (low ≤ n * step ∧ n * step ≤ high)
    else decide (low < n * step ∧ n * step < high)
  let below := value / step
  let above := below + 1
  match readsBack below, readsBack above with
  | true, true => some (if value - below * step < above * step - value then below else above)
  | true, false => some below
  | false, true => some above
  | false, false => none

-- How many digits `mantissa · 2 ^ exponent` has before the decimal point; a number below one tenth
-- has fewer than none.
def integerDigits (mantissa : Nat) (exponent : Int) : Int :=
  let shifted :=
    mantissa * Nat.pow 2 exponent.toNat * Nat.pow 10 340 / Nat.pow 2 (-exponent).toNat
  (Nat.toDigits 10 shifted).length - 340

-- The shortest decimal `(digits, power)`, for `digits · 10 ^ power`, of a positive number. With 17
-- digits there always is one.
def shortest (mantissa : Nat) (exponent : Int) : Nat × Int :=
  let size := integerDigits mantissa exponent
  let found := (List.range 17).findSome? fun (n : Nat) =>
    let power := size - (n + 1)
    (onGrid? mantissa exponent power).map fun digits => (digits, power)
  found.getD (0, 0)

def fractionText (digits : List Char) : List Char :=
  match (digits.reverse.dropWhile (· == '0')).reverse with
  | [] => []
  | digits => '.' :: digits

def positional (digits : Nat) (power : Int) : List Char :=
  let written := Nat.toDigits 10 digits
  let places := (-power).toNat
  if places < written.length then
    written.take (written.length - places) ++ List.replicate power.toNat '0' ++
      fractionText (written.drop (written.length - places))
  else '0' :: fractionText (List.replicate (places - written.length) '0' ++ written)

def sign (negative : Bool) : String :=
  if negative then "-" else ""

def toText : Binary64 → String
  | nan => "NaN"
  | infinite negative => sign negative ++ "inf"
  | finite negative 0 _ => sign negative ++ "0"
  | finite negative mantissa exponent =>
    let (digits, power) := shortest mantissa exponent
    sign negative ++ .ofList (positional digits power)

end ResourceEmbedding.Binary64
