import ResourceEmbedding.Glob.Matching
import ResourceEmbedding.Text.Blank
import ResourceEmbedding.Text.Lines
import ResourceEmbedding.Text.Split

namespace ResourceEmbedding

inductive Verdict
  | skip
  | keep
deriving DecidableEq, Repr

structure IgnoreRule where
  glob : Glob
  verdict : Verdict
  directoriesOnly : Bool

namespace IgnoreRule

-- The glob for a pattern. A pattern that is not anchored and has no slash matches in every
-- directory; two stars at the end match what is in a directory and not the directory itself.
def globFor? (anchored : Bool) (pattern : List Char) : Option Glob :=
  let everywhere := ['*', '*', '/']
  let pattern :=
    if anchored || pattern.contains '/' || pattern = ['*', '*'] then pattern
    else everywhere ++ pattern
  let pattern := if ['/', '*', '*'].isSuffixOf pattern then pattern ++ ['/', '*'] else pattern
  (Glob.read true pattern).toOption

-- The rule for a pattern. A slash at the end, which may be escaped, makes it a rule for
-- directories.
def ofPattern? (verdict : Verdict) (anchored : Bool) (pattern : List Char) : Option IgnoreRule :=
  let (directoriesOnly, pattern) := match pattern.reverse with
    | '/' :: '\\' :: rest => (true, rest.reverse)
    | '/' :: rest => (true, rest.reverse)
    | _ => (false, pattern)
  (globFor? anchored pattern).map fun glob => ⟨glob, verdict, directoriesOnly⟩

-- The rule on a line, without the white space at its end unless that is escaped. Behind a `!` stand
-- files to keep, a slash in front anchors a pattern at the directory of the ignore file, and behind
-- a `#` stands a comment.
def read? (line : List Char) : Option IgnoreRule :=
  if line.head? = some '#' then none
  else
    match if ['\\', ' '].isSuffixOf line then line else Text.trimEnd line with
    | [] => none
    | '\\' :: '!' :: rest => ofPattern? .skip false ('!' :: rest)
    | '\\' :: '#' :: rest => ofPattern? .skip false ('#' :: rest)
    | '!' :: '/' :: rest => ofPattern? .keep true rest
    | '!' :: rest => ofPattern? .keep false rest
    | '/' :: rest => ofPattern? .skip true rest
    | pattern => ofPattern? .skip false pattern

def readableText (bytes : List UInt8) : List Char :=
  match Utf8.decode bytes with
  | .ok text => text
  | .error fault =>
    let whole := Text.throughLast (· == 0x0A) (bytes.take fault.offset)
    (Utf8.decode whole).toOption.getD []

-- The rules of an ignore file. Byte order marks in front are left out, and so are lines that hold
-- no pattern.
def readAll (bytes : List UInt8) : List IgnoreRule :=
  (Text.lines ((readableText bytes).dropWhile (· == '\uFEFF'))).filterMap read?

-- Of the rules that match a path the last one decides.
def decide? (rules : List IgnoreRule) (isDirectory : Bool) (path : String) : Option Verdict :=
  (rules.reverse.find? fun rule =>
    (isDirectory || !rule.directoriesOnly) && rule.glob.isMatch path).map (·.verdict)

end IgnoreRule

structure IgnoreRules where
  ignore : List IgnoreRule := []
  versioned : List IgnoreRule := []
  excluded : List IgnoreRule := []
  -- Whether there is a `.git`. The rules for version control count only below such a directory, and
  -- not beyond it.
  isRepository : Bool := false

-- A directory above an entry, with the path from the directory to the entry.
structure Level where
  rules : IgnoreRules
  path : List String

namespace Level

def join (path : List String) : String :=
  "/".intercalate path

def down (name : String) (level : Level) : Level :=
  { level with path := level.path ++ [name] }

-- The levels up to the innermost repository, where there is one.
def repositoryLevels (levels : List Level) : List Level :=
  match levels.dropWhile (!·.rules.isRepository) with
  | [] => []
  | repository :: _ => levels.takeWhile (!·.rules.isRepository) ++ [repository]

-- What the levels above an entry, nearest first, say of it. Rules of `.ignore` files come before
-- those of `.gitignore` files, and within a kind the nearest file that has a say decides.
def decide? (levels : List Level) (isDirectory : Bool) : Option Verdict :=
  let first (levels : List Level) (rules : IgnoreRules → List IgnoreRule) : Option Verdict :=
    levels.findSome? fun level => IgnoreRule.decide? (rules level.rules) isDirectory (join level.path)
  let versioned := repositoryLevels levels
  first levels (·.ignore) <|> first versioned (·.versioned) <|> first versioned (·.excluded)

-- Whether a search passes over an entry below the levels: a rule says so, or its name begins with a
-- dot and no rule says to keep it.
def isSkipped (levels : List Level) (isDirectory : Bool) (name : String) : Bool :=
  match decide? levels isDirectory with
  | some verdict => verdict == .skip
  | none => name.toList.head? == some '.'

end Level

end ResourceEmbedding
