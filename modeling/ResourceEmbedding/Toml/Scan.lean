namespace ResourceEmbedding.Toml

-- A step that fails takes nothing.
abbrev Scan := StateT (List Char) Option

namespace Scan

def peek? : Scan (Option Char) := do
  return (← get).head?

def oneOf (p : Char → Bool) : Scan Char := do
  match ← get with
  | c :: rest => if p c then do set rest; return c else failure
  | [] => failure

def exactly (expected : List Char) : Scan Unit := do
  let cs ← get
  if expected.isPrefixOf cs then set (cs.drop expected.length) else failure

def takeWhile (p : Char → Bool) : Scan (List Char) := do
  let cs ← get
  set (cs.dropWhile p)
  return cs.takeWhile p

def takeWhile1 (p : Char → Bool) : Scan (List Char) := do
  let taken ← takeWhile p
  if taken.isEmpty then failure else return taken

def takeN (n : Nat) (p : Char → Bool) : Scan (List Char) := do
  let cs ← get
  let taken := cs.take n
  if taken.length = n && taken.all p then do set (cs.drop n); return taken else failure

-- The result of `step`, or nothing where it fails.
def optional? (step : Scan α) : Scan (Option α) :=
  (some <$> step) <|> pure none

def repeatUpTo (step : Scan α) : Nat → Scan (List α)
  | 0 => return []
  | bound + 1 => do
    match ← optional? step with
    | some a => return a :: (← repeatUpTo step bound)
    | none => return []

-- Repeats `step`, which takes at least one character, until it fails.
def many (step : Scan α) : Scan (List α) := do
  repeatUpTo step ((← get).length + 1)

def separated (separator : Char) (step : Scan α) : Scan (List α) := do
  match ← optional? step with
  | none => return []
  | some first => return first :: (← many do exactly [separator]; step)

def atEnd : Scan Unit := do
  if (← get).isEmpty then return () else failure

def isBlank (c : Char) : Bool :=
  c == ' ' || c == '\t'

def blanks : Scan Unit :=
  discard (takeWhile isBlank)

def newline : Scan Unit :=
  exactly ['\n'] <|> exactly ['\r', '\n']

-- Characters that may stand in a text without an escape, the delimiters of the text apart.
def isTextChar (c : Char) : Bool :=
  c == '\t' || (0x20 ≤ c.toNat && c.toNat != 0x7F)

def comment : Scan Unit := do
  exactly ['#']
  discard (takeWhile isTextChar)

-- The rest of a line after the last of its parts, with the end of the line or of the text.
def lineEnd : Scan Unit := do
  blanks
  discard (optional? comment)
  newline <|> atEnd

def trivia : Scan Unit := do
  discard (many (discard (takeWhile1 isBlank) <|> newline <|> do comment; newline))

end Scan

end ResourceEmbedding.Toml
