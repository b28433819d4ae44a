namespace ResourceEmbedding.Utf16

def isHigh (u : UInt16) : Bool :=
  0xD800 ≤ u && u ≤ 0xDBFF

def isLow (u : UInt16) : Bool :=
  0xDC00 ≤ u && u ≤ 0xDFFF

def ofChar (c : Char) : List UInt16 :=
  let n := c.toNat
  if n < 0x10000 then [n.toUInt16]
  else [(0xD800 + (n - 0x10000) / 0x400).toUInt16, (0xDC00 + (n - 0x10000) % 0x400).toUInt16]

def ofChars (cs : List Char) : List UInt16 :=
  cs.flatMap ofChar

def ofString (s : String) : List UInt16 :=
  ofChars s.toList

def pair (high low : UInt16) : Char :=
  Char.ofNat (0x10000 + (high.toNat - 0xD800) * 0x400 + (low.toNat - 0xDC00))

def replacement : Char := '\uFFFD'

-- Reads units on from `done`, the characters read so far, last first. A surrogate without its
-- partner gives `none`.
def decodeOnto (done : List (Option Char)) : List UInt16 → List (Option Char)
  | [] => done.reverse
  | [u] =>
    let c := if isHigh u || isLow u then none else some (Char.ofNat u.toNat)
    (c :: done).reverse
  | u :: v :: rest =>
    if isHigh u then
      if isLow v then decodeOnto (some (pair u v) :: done) rest
      else decodeOnto (none :: done) (v :: rest)
    else if isLow u then decodeOnto (none :: done) (v :: rest)
    else decodeOnto (some (Char.ofNat u.toNat) :: done) (v :: rest)

-- The characters that the units stand for, `none` for each unpaired surrogate.
def decode (units : List UInt16) : List (Option Char) :=
  decodeOnto [] units

def toStringLossy (units : List UInt16) : String :=
  .ofList ((decode units).map (·.getD replacement))

def toString? (units : List UInt16) : Option String :=
  ((decode units).mapM id).map .ofList

end ResourceEmbedding.Utf16
