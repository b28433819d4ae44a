import ResourceEmbedding.Toml.Scalar
import ResourceEmbedding.Toml.Table
import ResourceEmbedding.Toml.Text

namespace ResourceEmbedding.Toml

namespace Scan

def scalar : Scan Toml :=
  (do return .string (← anyText)) <|> boolean <|> datetime <|> decimal <|> specialNumber <|> integer

-- Values in brackets; a comma may stand behind the last one.
def arrayOf (item : Scan Toml) : Scan Toml := do
  exactly ['[']
  let items ← separated ',' do
    trivia
    let x ← item
    trivia
    return x
  if !items.isEmpty then discard (optional? (exactly [',']))
  trivia
  exactly [']']
  return .array items

def assignment (value : Scan Toml) : Scan (List String × Toml) := do
  let key ← dottedKey
  exactly ['=']
  blanks
  return (key, ← value)

-- A table in braces, on one line.
def inlineTableOf (value : Scan Toml) : Scan Toml := do
  exactly ['\x7b']
  let pairs ← separated ',' do
    let pair ← assignment value
    blanks
    return pair
  blanks
  exactly ['\x7d']
  let some entries := pairs.foldlM (fun (draft : TableDraft) (key, x) => draft.assign [] key x) []
    | failure
  return .table (finishEntries entries)

-- A value that holds others at most so deep.
def value : Nat → Scan Toml
  | 0 => scalar
  | depth + 1 => scalar <|> arrayOf (value depth) <|> inlineTableOf (value depth)

end Scan

inductive Line
  | blank
  | assignment (key : List String) (value : Toml)
  | header (path : List String)
  | arrayHeader (path : List String)

namespace Scan

def header : Scan Line := do
  exactly ['[']
  let path ← dottedKey
  exactly [']']
  return .header path

def arrayHeader : Scan Line := do
  exactly ['[', '[']
  let path ← dottedKey
  exactly [']', ']']
  return .arrayHeader path

-- A line with what ends it. Nothing is taken at the end of the text.
def line : Scan Line := do
  blanks
  if (← get).isEmpty then failure
  let content ← arrayHeader <|> header <|>
    (do let (key, x) ← assignment (value (nestingLimit - 1)); return .assignment key x) <|>
    return .blank
  lineEnd
  return content

def document : Scan (List Line) := do
  let lines ← many line
  blanks
  atEnd
  return lines

end Scan

-- A document read so far: its tables, and the path of the header that was read last.
structure Progress where
  tables : TableDraft := []
  path : List String := []

def Progress.push (p : Progress) : Line → Option Progress
  | .blank => some p
  | .assignment key value => do return { p with tables := ← p.tables.assign p.path key value }
  | .header path => do return ⟨← p.tables.openTable path, path⟩
  | .arrayHeader path => do return ⟨← p.tables.openArrayItem path, path⟩

-- A byte order mark in front of a text is no part of it.
def withoutMark : List Char → List Char
  | '\uFEFF' :: cs => cs
  | cs => cs

def read? (text : String) : Option (List (String × Toml)) := do
  let (lines, _) ← Scan.document.run (withoutMark text.toList)
  let p ← lines.foldlM Progress.push {}
  return finishEntries p.tables

end ResourceEmbedding.Toml
