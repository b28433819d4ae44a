import ResourceEmbedding.Symbol.Rules
import ResourceEmbedding.Text.Split

namespace ResourceEmbedding

def isSeparator (c : Char) : Bool :=
  c == '/' || c == '\\'

-- The part of a path after its last separator, up to its last dot. A dot that opens the name ends
-- nothing.
def baseNameChars (path : List Char) : List Char :=
  let name := Text.afterLast isSeparator path
  match name.reverse.dropWhile (· != '.') with
  | [] | [_] => name
  | _ :: front => front.reverse

def baseName (path : String) : String :=
  .ofList (baseNameChars path.toList)

def filler : Char := '_'

namespace IdentifierRules

-- Replaces what is illegal at its position; an empty text becomes one filler.
def legalize (rules : IdentifierRules) : List Char → List Char
  | [] => [filler]
  | c :: rest =>
    (if rules.isStart c then c else filler) ::
      rest.map fun c => if rules.isContinue c then c else filler

-- The least number of fillers after which `word` is not reserved. The candidates all differ, so one
-- more of them than there are reserved words is enough.
def fillersNeeded (rules : IdentifierRules) (word : List Char) : Nat :=
  let candidates := List.range (rules.reserved.length + 1)
  (candidates.find? fun k => !rules.isReserved (word ++ List.replicate k filler)).getD 0

def unreserve (rules : IdentifierRules) (word : List Char) : List Char :=
  word ++ List.replicate (rules.fillersNeeded word) filler

def sanitizeChars (rules : IdentifierRules) (raw : List Char) : List Char :=
  rules.unreserve (rules.legalize raw)

def sanitize (rules : IdentifierRules) (raw : String) : String :=
  .ofList (rules.sanitizeChars raw.toList)

end IdentifierRules

end ResourceEmbedding
