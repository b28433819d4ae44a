import ResourceEmbedding.Text.Digits
import ResourceEmbedding.Text.Utf16

namespace ResourceEmbedding.Properties

def isFormatBlank (c : Char) : Bool :=
  c == ' ' || c == '\t' || c == '\x0c'

def isMark (c : Char) : Bool :=
  c == '=' || c == ':'

-- Parts a line before the first mark or blank that no backslash escapes.
def splitKey : List Char → List Char × List Char
  | [] => ([], [])
  | '\\' :: [] => (['\\'], [])
  | '\\' :: c :: rest =>
    let (key, rest) := splitKey rest
    ('\\' :: c :: key, rest)
  | c :: rest =>
    if isMark c || isFormatBlank c then ([], c :: rest)
    else
      let (key, rest) := splitKey rest
      (c :: key, rest)

-- The value behind a key: blanks, one mark and blanks again are left out.
def valueAfter (rest : List Char) : List Char :=
  match rest.dropWhile isFormatBlank with
  | [] => []
  | c :: rest => if isMark c then rest.dropWhile isFormatBlank else c :: rest

-- The key and the value on a line, their escapes unread.
def splitEntry (line : List Char) : List Char × List Char :=
  let (key, rest) := splitKey line
  (key, valueAfter rest)

-- The code unit of the four characters of an escape: a hexadecimal number, which may have a plus
-- sign.
def escapedUnit? : List Char → Option UInt16
  | '+' :: digits => (Text.hex? digits).map (·.toUInt16)
  | digits => (Text.hex? digits).map (·.toUInt16)

def escapedChar : Char → Char
  | 't' => '\t'
  | 'n' => '\n'
  | 'r' => '\r'
  | 'f' => '\x0c'
  | c => c

structure Unescaping where
  -- A high surrogate, whose partner may come as the next escape.
  high : Option UInt16
  -- The characters read, last first.
  done : List Char
deriving DecidableEq, Repr

namespace Unescaping

def start : Unescaping :=
  ⟨none, []⟩

-- Gives up waiting for the partner of a high surrogate.
def flush (s : Unescaping) : Unescaping :=
  match s.high with
  | none => s
  | some _ => ⟨none, Utf16.replacement :: s.done⟩

def pushChar (s : Unescaping) (c : Char) : Unescaping :=
  { s.flush with done := c :: s.flush.done }

def pushUnit (s : Unescaping) (u : UInt16) : Unescaping :=
  match s.high with
  | some high =>
    if Utf16.isLow u then ⟨none, Utf16.pair high u :: s.done⟩ else push s.flush u
  | none => push s u
where
  push (s : Unescaping) (u : UInt16) : Unescaping :=
    if Utf16.isHigh u then { s with high := some u }
    else if Utf16.isLow u then { s with done := Utf16.replacement :: s.done }
    else { s with done := Char.ofNat u.toNat :: s.done }

def finish (s : Unescaping) : List Char :=
  s.flush.done.reverse

end Unescaping

-- Reads the rest of a key or of a value. An escape by number that is malformed gives its up to four
-- characters.
def unescapeFrom (s : Unescaping) : List Char → Except (List Char) (List Char)
  | [] => .ok s.finish
  | '\\' :: [] => .ok s.finish
  | '\\' :: 'u' :: a :: b :: c :: d :: rest =>
    match escapedUnit? [a, b, c, d] with
    | some u => unescapeFrom (s.pushUnit u) rest
    | none => .error [a, b, c, d]
  | '\\' :: 'u' :: short => .error short
  | '\\' :: c :: rest => unescapeFrom (s.pushChar (escapedChar c)) rest
  | c :: rest => unescapeFrom (s.pushChar c) rest

def unescape (raw : List Char) : Except (List Char) (List Char) :=
  unescapeFrom .start raw

end ResourceEmbedding.Properties
