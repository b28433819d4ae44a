import ResourceEmbedding.Text.Digits
import ResourceEmbedding.Toml.Basic
import ResourceEmbedding.Toml.Scan

namespace ResourceEmbedding.Toml.Scan

-- Digits of a base, with single underscores between some of them.
def digitRun (isDigit : Char → Bool) : Scan (List Char) := do
  let first ← oneOf isDigit
  let rest ← many (oneOf isDigit <|> do exactly ['_']; oneOf isDigit)
  return first :: rest

-- Decimal digits without a needless zero in front.
def plainDigits : Scan (List Char) := do
  if (← peek?) == some '0' then return [← oneOf (· == '0')] else digitRun Char.isDigit

-- Whether there is a minus sign; a plus sign may stand there too.
def minusSign : Scan Bool := do
  match ← optional? (oneOf fun c => c == '+' || c == '-') with
  | some c => return c == '-'
  | none => return false

def inRange (n : Int) : Scan Toml :=
  if -0x8000000000000000 ≤ n && n < 0x8000000000000000 then return .integer n else failure

def basedInteger (letter : Char) (base : Nat) : Scan Toml := do
  exactly ['0', letter]
  let value (c : Char) : Option Nat := (Text.hexValue? c).filter (· < base)
  let digits ← digitRun fun c => (value c).isSome
  inRange (digits.foldl (fun n c => n * base + (value c).getD 0) 0 : Nat)

def integer : Scan Toml :=
  basedInteger 'x' 16 <|> basedInteger 'o' 8 <|> basedInteger 'b' 2 <|> do
    let negative ← minusSign
    let n : Int := Text.decimalValue (← plainDigits)
    inRange (if negative then -n else n)

def exponent : Scan Int := do
  discard (oneOf fun c => c == 'e' || c == 'E')
  let negative ← minusSign
  let n : Int := Text.decimalValue (← digitRun Char.isDigit)
  return if negative then -n else n

-- A number with a fraction or an exponent. One that is too large to represent is refused; too far
-- below zero it is infinite.
def decimal : Scan Toml := do
  let negative ← minusSign
  let whole ← plainDigits
  let fraction ← optional? do
    exactly ['.']
    digitRun Char.isDigit
  let power ← optional? exponent
  if fraction.isNone && power.isNone then failure
  let fraction := fraction.getD []
  let x := Binary64.ofDecimal negative (Text.decimalValue (whole ++ fraction))
    (power.getD 0 - fraction.length)
  if x = .infinite false then failure else return .float x

def specialNumber : Scan Toml := do
  let negative ← minusSign
  (do exactly "inf".toList; return .float (.infinite negative)) <|>
    (do exactly "nan".toList; return .float .nan)

def fixedDigits (count : Nat) : Scan Nat := do
  return Text.decimalValue (← takeN count Char.isDigit)

def date : Scan Date := do
  let year ← fixedDigits 4
  exactly ['-']
  let month ← fixedDigits 2
  exactly ['-']
  let day ← fixedDigits 2
  let d : Date := ⟨year, month, day⟩
  if d.isValid then return d else failure

-- Digits of a second's fraction beyond the ninth are dropped.
def nanoseconds : Scan Nat := do
  exactly ['.']
  let digits := (← takeWhile1 Char.isDigit).take 9
  return Text.decimalValue digits * Nat.pow 10 (9 - digits.length)

def time : Scan Time := do
  let hour ← fixedDigits 2
  exactly [':']
  let minute ← fixedDigits 2
  exactly [':']
  let second ← fixedDigits 2
  let fraction ← optional? nanoseconds
  let t : Time := ⟨hour, minute, second, fraction.getD 0⟩
  if t.isValid then return t else failure

def offset : Scan Offset :=
  (do discard (oneOf fun c => c == 'Z' || c == 'z'); return .utc) <|> do
    let sign ← oneOf fun c => c == '+' || c == '-'
    let hour ← fixedDigits 2
    exactly [':']
    let minute ← fixedDigits 2
    if hour ≤ 23 && minute ≤ 59 then return .minutes (sign == '-') (hour * 60 + minute)
    else failure

def timeOfDate : Scan (Time × Option Offset) := do
  discard (oneOf fun c => c == 'T' || c == 't' || c == ' ')
  return (← time, ← optional? offset)

def datetime : Scan Toml :=
  (do
    let d ← date
    match ← optional? timeOfDate with
    | some (t, offset) => return .datetime ⟨d, t, offset⟩
    | none => return .datetime ⟨d, none, none⟩) <|>
  do return .datetime ⟨none, ← time, none⟩

def boolean : Scan Toml :=
  (do exactly "true".toList; return .boolean true) <|>
    (do exactly "false".toList; return .boolean false)

end ResourceEmbedding.Toml.Scan
