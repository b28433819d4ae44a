import ResourceEmbedding.Text.Digits
import ResourceEmbedding.Toml.Scan

namespace ResourceEmbedding.Toml.Scan

def numbered (count : Nat) : Scan Char := do
  let digits ← takeN count fun c => (Text.hexValue? c).isSome
  let some n := Text.hex? digits | failure
  if n.isValidChar then return Char.ofNat n else failure

def escape : Scan Char := do
  exactly ['\\']
  match ← oneOf fun _ => true with
  | 'b' => return '\x08'
  | 't' => return '\t'
  | 'n' => return '\n'
  | 'f' => return '\x0c'
  | 'r' => return '\r'
  | '"' => return '"'
  | '\\' => return '\\'
  | 'u' => numbered 4
  | 'U' => numbered 8
  | _ => failure

def isBasicChar (c : Char) : Bool :=
  isTextChar c && c != '"' && c != '\\'

def isLiteralChar (c : Char) : Bool :=
  isTextChar c && c != '\''

def basicText : Scan String := do
  exactly ['"']
  let parts ← many (takeWhile1 isBasicChar <|> do return [← escape])
  exactly ['"']
  return .ofList parts.flatten

def literalText : Scan String := do
  exactly ['\'']
  let cs ← takeWhile isLiteralChar
  exactly ['\'']
  return .ofList cs

-- One or two quotes, which do not end a text over several lines.
def innerQuotes (quote : Char) : Scan (List Char) := do
  let quotes ← takeWhile1 (· == quote)
  if quotes.length < 3 then return quotes else failure

-- The three quotes at the end of a text; one or two more in front of them belong to the text.
def closingQuotes (quote : Char) : Scan (List Char) := do
  let cs ← get
  let count := (cs.takeWhile (· == quote)).length
  if count < 3 then failure
  let inner := min (count - 3) 2
  set (cs.drop (inner + 3))
  return List.replicate inner quote

-- A backslash at the end of a line, with all blanks and ends of lines that follow.
def lineContinuation : Scan Unit := do
  exactly ['\\']
  blanks
  newline
  discard (many (discard (takeWhile1 isBlank) <|> newline))

-- A text over several lines, made of `parts`. A newline right after the opening quotes is left out,
-- and the others are all written alike.
def multilineText (quote : Char) (parts : Scan (List Char)) : Scan String := do
  exactly [quote, quote, quote]
  discard (optional? newline)
  let inner ← many (parts <|> (do newline; return ['\n']) <|> innerQuotes quote)
  let last ← closingQuotes quote
  return .ofList (inner.flatten ++ last)

def multilineBasicText : Scan String :=
  multilineText '"' (takeWhile1 isBasicChar <|> (do lineContinuation; return []) <|> do
    return [← escape])

def multilineLiteralText : Scan String :=
  multilineText '\'' (takeWhile1 isLiteralChar)

def anyText : Scan String :=
  multilineBasicText <|> basicText <|> multilineLiteralText <|> literalText

def isBareKeyChar (c : Char) : Bool :=
  c.isAlphanum || c == '-' || c == '_'

def simpleKey : Scan String :=
  basicText <|> literalText <|> do return .ofList (← takeWhile1 isBareKeyChar)

-- The most nesting that is read, of keys and of values.
def nestingLimit : Nat := 80

def dottedKey : Scan (List String) := do
  let keys ← separated '.' do
    blanks
    let key ← simpleKey
    blanks
    return key
  if keys.isEmpty || nestingLimit ≤ keys.length then failure else return keys

end ResourceEmbedding.Toml.Scan
