import ResourceEmbedding.Json.Basic
import ResourceEmbedding.Text.Digits

namespace ResourceEmbedding.Json

def skipBlanks (cs : List Char) : List Char :=
  cs.dropWhile fun c => c == ' ' || c == '\n' || c == '\r' || c == '\t'

-- The rest of a string, after the characters of `done`, last first, and what follows it.
def readString (done : List Char) : List Char → Option (String × List Char)
  | '"' :: rest => some (.ofList done.reverse, rest)
  | '\\' :: 'u' :: a :: b :: c :: d :: rest => do
    let n ← Text.hex? [a, b, c, d]
    if n < 0xD800 || 0xDFFF < n then readString (Char.ofNat n :: done) rest
    else if n ≤ 0xDBFF then
      match rest with
      | '\\' :: 'u' :: a :: b :: c :: d :: rest =>
        let low ← Text.hex? [a, b, c, d]
        if 0xDC00 ≤ low && low ≤ 0xDFFF then
          readString (Char.ofNat (0x10000 + (n - 0xD800) * 0x400 + (low - 0xDC00)) :: done) rest
        else none
      | _ => none
    else none
  | '\\' :: c :: rest =>
    match c with
    | '"' | '\\' | '/' => readString (c :: done) rest
    | 'b' => readString ('\x08' :: done) rest
    | 'f' => readString ('\x0c' :: done) rest
    | 'n' => readString ('\n' :: done) rest
    | 'r' => readString ('\r' :: done) rest
    | 't' => readString ('\t' :: done) rest
    | _ => none
  | c :: rest => if c.toNat < 0x20 then none else readString (c :: done) rest
  | [] => none

def isNumberChar (c : Char) : Bool :=
  c.isDigit || c == '-' || c == '+' || c == '.' || c == 'e' || c == 'E'

-- The number written as `token`. A negative zero is no integer.
def numberOfToken? (token : List Char) : Option Json :=
  match token with
  | [] | ['-'] => none
  | '-' :: digits =>
    if digits.all Char.isDigit && Text.decimalValue digits != 0 then
      some (.number (-(Text.decimalValue digits : Int)))
    else some (.decimal (.ofList token))
  | digits =>
    if digits.all Char.isDigit then some (.number (Text.decimalValue digits))
    else some (.decimal (.ofList token))

mutual

-- A value at the front of the text, and what follows it.
def readValue : Nat → List Char → Option (Json × List Char)
  | 0, _ => none
  | fuel + 1, cs =>
    match skipBlanks cs with
    | 'n' :: 'u' :: 'l' :: 'l' :: rest => some (.null, rest)
    | 't' :: 'r' :: 'u' :: 'e' :: rest => some (.bool true, rest)
    | 'f' :: 'a' :: 'l' :: 's' :: 'e' :: rest => some (.bool false, rest)
    | '"' :: rest => (readString [] rest).map fun (s, rest) => (.string s, rest)
    | '[' :: rest =>
      match skipBlanks rest with
      | ']' :: rest => some (.array [], rest)
      | rest => readItems fuel [] rest
    | '\x7b' :: rest =>
      match skipBlanks rest with
      | '\x7d' :: rest => some (.object [], rest)
      | rest => readFields fuel [] rest
    | cs =>
      (numberOfToken? (cs.takeWhile isNumberChar)).map fun n => (n, cs.dropWhile isNumberChar)

-- The items of an array from the next one on, after those of `done`, last first.
def readItems : Nat → List Json → List Char → Option (Json × List Char)
  | 0, _, _ => none
  | fuel + 1, done, cs => do
    let (x, rest) ← readValue fuel cs
    match skipBlanks rest with
    | ',' :: rest => readItems fuel (x :: done) rest
    | ']' :: rest => some (.array (x :: done).reverse, rest)
    | _ => none

def readFields : Nat → List (String × Json) → List Char → Option (Json × List Char)
  | 0, _, _ => none
  | fuel + 1, done, cs =>
    match skipBlanks cs with
    | '"' :: rest => do
      let (name, rest) ← readString [] rest
      match skipBlanks rest with
      | ':' :: rest =>
        let (x, rest) ← readValue fuel rest
        match skipBlanks rest with
        | ',' :: rest => readFields fuel ((name, x) :: done) rest
        | '\x7d' :: rest => some (.object ((name, x) :: done).reverse, rest)
        | _ => none
      | _ => none
    | _ => none

end

def read? (text : String) : Option Json := do
  let cs := text.toList
  let (j, rest) ← readValue (cs.length + 1) cs
  if (skipBlanks rest).isEmpty then some j else none

end ResourceEmbedding.Json
