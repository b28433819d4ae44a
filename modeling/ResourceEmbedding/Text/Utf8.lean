namespace ResourceEmbedding.Utf8

inductive Verdict
  -- The proper beginning of a character.
  | more
  | char (c : Char)
  | bad
deriving DecidableEq, Repr

def isContinuation (b : UInt8) : Bool :=
  0x80 ≤ b && b ≤ 0xBF

-- The second bytes that may follow `lead`: no overlong form, no surrogate, and nothing past the
-- last code point.
def isSecond (lead b : UInt8) : Bool :=
  if lead = 0xE0 then 0xA0 ≤ b && b ≤ 0xBF
  else if lead = 0xED then 0x80 ≤ b && b ≤ 0x9F
  else if lead = 0xF0 then 0x90 ≤ b && b ≤ 0xBF
  else if lead = 0xF4 then 0x80 ≤ b && b ≤ 0x8F
  else isContinuation b

def extend (high : Nat) (bytes : List UInt8) : Char :=
  Char.ofNat (bytes.foldl (fun n b => n * 0x40 + b.toNat % 0x40) high)

-- Judges bytes of which all but the last are the proper beginning of a character.
def judge : List UInt8 → Verdict
  | [a] =>
    if a < 0x80 then .char (Char.ofNat a.toNat)
    else if 0xC2 ≤ a && a ≤ 0xF4 then .more else .bad
  | [a, b] =>
    if !isSecond a b then .bad
    else if a < 0xE0 then .char (extend (a.toNat % 0x20) [b]) else .more
  | [a, b, c] =>
    if !isContinuation c then .bad
    else if a < 0xF0 then .char (extend (a.toNat % 0x10) [b, c]) else .more
  | [a, b, c, d] =>
    if !isContinuation d then .bad else .char (extend (a.toNat % 0x08) [b, c, d])
  | _ => .bad

-- Where bytes stop being UTF-8: after `offset` bytes that are, by a sequence of `length` bytes that
-- starts no character, or by the end of the text when `length` is `none`.
structure Fault where
  offset : Nat
  length : Option Nat
deriving DecidableEq, Repr

def Fault.message (f : Fault) : String :=
  match f.length with
  | some n => s!"invalid utf-8 sequence of {n} bytes from index {f.offset}"
  | none => s!"incomplete utf-8 byte sequence from index {f.offset}"

structure Reading where
  -- The characters read, last first.
  chars : List Char
  -- Bytes of a character that is not complete yet.
  pending : List UInt8
  offset : Nat
deriving DecidableEq, Repr

namespace Reading

def start : Reading :=
  ⟨[], [], 0⟩

def push (r : Reading) (b : UInt8) : Except Fault Reading :=
  let bytes := r.pending ++ [b]
  match judge bytes with
  | .more => .ok { r with pending := bytes }
  | .char c => .ok ⟨c :: r.chars, [], r.offset + bytes.length⟩
  | .bad => .error ⟨r.offset, some (max 1 r.pending.length)⟩

def pushAll (r : Reading) (bytes : List UInt8) : Except Fault Reading :=
  bytes.foldlM push r

def finish (r : Reading) : Except Fault (List Char) :=
  if r.pending.isEmpty then .ok r.chars.reverse else .error ⟨r.offset, none⟩

end Reading

def decode (bytes : List UInt8) : Except Fault (List Char) := do
  (← Reading.start.pushAll bytes).finish

-- How many of the bytes are whole characters. The rest may become one when more bytes come.
def wholeLength (bytes : List UInt8) : Except Fault Nat :=
  match decode bytes with
  | .ok _ => .ok bytes.length
  | .error fault => if fault.length.isSome then .error fault else .ok fault.offset

def ofChar (c : Char) : List UInt8 :=
  let n := c.toNat
  let tail (k : Nat) : UInt8 := (0x80 + n / Nat.pow 0x40 k % 0x40).toUInt8
  if n < 0x80 then [n.toUInt8]
  else if n < 0x800 then [(0xC0 + n / 0x40).toUInt8, tail 0]
  else if n < 0x10000 then [(0xE0 + n / 0x1000).toUInt8, tail 1, tail 0]
  else [(0xF0 + n / 0x40000).toUInt8, tail 2, tail 1, tail 0]

def encode (s : String) : List UInt8 :=
  s.toList.flatMap ofChar

end ResourceEmbedding.Utf8
