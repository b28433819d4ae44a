namespace ResourceEmbedding.Toml

structure Date where
  year : Nat
  month : Nat
  day : Nat
deriving DecidableEq, Repr

namespace Date

def isLeapYear (year : Nat) : Bool :=
  year % 4 == 0 && (year % 100 != 0 || year % 400 == 0)

def daysIn (year month : Nat) : Nat :=
  if month = 2 then if isLeapYear year then 29 else 28
  else if month = 4 ∨ month = 6 ∨ month = 9 ∨ month = 11 then 30
  else 31

def isValid (d : Date) : Bool :=
  1 ≤ d.month && d.month ≤ 12 && 1 ≤ d.day && d.day ≤ daysIn d.year d.month

end Date

-- A time of day; a minute may have a leap second.
structure Time where
  hour : Nat
  minute : Nat
  second : Nat
  nanosecond : Nat
deriving DecidableEq, Repr

def Time.isValid (t : Time) : Bool :=
  t.hour ≤ 23 && t.minute ≤ 59 && t.second ≤ 60

inductive Offset
  | utc
  | minutes (behind : Bool) (count : Nat)
deriving DecidableEq, Repr

structure Datetime where
  date : Option Date := none
  time : Option Time := none
  offset : Option Offset := none
deriving DecidableEq, Repr

def padded (width n : Nat) : String :=
  let digits := Nat.toDigits 10 n
  .ofList (List.replicate (width - digits.length) '0' ++ digits)

def Date.toText (d : Date) : String :=
  s!"{padded 4 d.year}-{padded 2 d.month}-{padded 2 d.day}"

-- Zeros at the end of the fraction are left out.
def Time.toText (t : Time) : String :=
  let fraction := ((padded 9 t.nanosecond).toList.reverse.dropWhile (· == '0')).reverse
  s!"{padded 2 t.hour}:{padded 2 t.minute}:{padded 2 t.second}" ++
    .ofList (if fraction.isEmpty then [] else '.' :: fraction)

def Offset.toText : Offset → String
  | utc => "Z"
  | minutes behind count =>
    (if behind && count != 0 then "-" else "+") ++ s!"{padded 2 (count / 60)}:{padded 2 (count % 60)}"

def Datetime.toText (d : Datetime) : String :=
  let time := (d.time.map (·.toText)).getD ""
  let offset := (d.offset.map (·.toText)).getD ""
  match d.date with
  | none => time
  | some date => date.toText ++ (if d.time.isSome then "T" else "") ++ time ++ offset

end ResourceEmbedding.Toml
