import ResourceEmbedding.Json.Basic
import ResourceEmbedding.Text.Quoted

namespace ResourceEmbedding.Json

def escapeChar (c : Char) : List Char :=
  match c with
  | '"' => ['\\', '"']
  | '\\' => ['\\', '\\']
  | '\x08' => ['\\', 'b']
  | '\t' => ['\\', 't']
  | '\n' => ['\\', 'n']
  | '\x0c' => ['\\', 'f']
  | '\r' => ['\\', 'r']
  | c =>
    if c.toNat < 0x10 then ['\\', 'u', '0', '0', '0'] ++ Text.hexDigits c.toNat
    else if c.toNat < 0x20 then ['\\', 'u', '0', '0'] ++ Text.hexDigits c.toNat
    else [c]

def literal (s : String) : String :=
  .ofList ('"' :: s.toList.flatMap escapeChar ++ ['"'])

def newLine (indented : Bool) (depth : Nat) (out : String) : String :=
  if indented then out.push '\n' ++ .ofList (List.replicate (2 * depth) ' ') else out

mutual

-- Appends the text of a value at `depth` to `out`.
def write (indented : Bool) (depth : Nat) (out : String) : Json → String
  | null => out ++ "null"
  | bool b => out ++ (if b then "true" else "false")
  | number n => out ++ toString n
  | decimal text => out ++ text
  | string s => out ++ literal s
  | array [] => out ++ "[]"
  | array (x :: xs) =>
    let first := write indented (depth + 1) (newLine indented (depth + 1) (out.push '[')) x
    (newLine indented depth (writeItems indented (depth + 1) first xs)).push ']'
  | object [] => out ++ "\x7b\x7d"
  | object ((name, x) :: rest) =>
    let out := newLine indented (depth + 1) (out.push '\x7b') ++ literal name ++
      (if indented then ": " else ":")
    let first := write indented (depth + 1) out x
    (newLine indented depth (writeFields indented (depth + 1) first rest)).push '\x7d'

def writeItems (indented : Bool) (depth : Nat) (out : String) : List Json → String
  | [] => out
  | x :: xs =>
    writeItems indented depth (write indented depth (newLine indented depth (out.push ',')) x) xs

def writeFields (indented : Bool) (depth : Nat) (out : String) : List (String × Json) → String
  | [] => out
  | (name, x) :: rest =>
    let out := newLine indented depth (out.push ',') ++ literal name ++
      (if indented then ": " else ":")
    writeFields indented depth (write indented depth out x) rest

end

def compact (j : Json) : String :=
  j.write false 0 ""

def pretty (j : Json) : String :=
  j.write true 0 ""

end ResourceEmbedding.Json
