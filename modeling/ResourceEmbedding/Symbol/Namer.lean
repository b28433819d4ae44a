import ResourceEmbedding.Json.Form
import ResourceEmbedding.Symbol.Sanitize
import ResourceEmbedding.Symbol.Words
import ResourceEmbedding.Text.Keyword

namespace ResourceEmbedding

inductive NamingStrategy
  -- The sanitized base name, for symbols of every kind.
  | sanitizing
  -- The words of the sanitized base name, in the case usual for the kind of symbol.
  | case
deriving DecidableEq, Repr

namespace NamingStrategy

def all : List NamingStrategy := [.sanitizing, .case]

def name : NamingStrategy → String
  | .sanitizing => "sanitizing"
  | .case => "case"

def read : String → Except UnknownKeyword NamingStrategy :=
  readKeyword "naming strategy" all name

instance : JsonForm NamingStrategy := .ofNames all name

end NamingStrategy

structure Namer where
  strategy : NamingStrategy
  rules : IdentifierRules

namespace Namer

def ofStrategy (strategy : NamingStrategy) : Namer :=
  ⟨strategy, .rust⟩

instance : Inhabited Namer := ⟨ofStrategy .sanitizing⟩

def words (namer : Namer) (base : String) : List (List Char) :=
  Words.split (namer.rules.sanitizeChars base.toList)

-- The symbol that joins the words of `base` by `join`. Joining may bring up a reserved word or an
-- illegal first character, so the result is sanitized again; where there is no word, the sanitized
-- base is the symbol.
def symbol (namer : Namer) (join : List (List Char) → List Char) (base : String) : String :=
  match namer.strategy with
  | .sanitizing => namer.rules.sanitize base
  | .case =>
    let words := namer.words base
    if words.isEmpty then namer.rules.sanitize base
    else .ofList (namer.rules.sanitizeChars (join words))

def typeName (namer : Namer) : String → String :=
  namer.symbol Words.capitalised

def constantName (namer : Namer) : String → String :=
  namer.symbol Words.shouted

def memberName (namer : Namer) : String → String :=
  namer.symbol Words.humped

def describe (namer : Namer) : String :=
  let kind := match namer.strategy with
    | .sanitizing => "SanitizingNamer"
    | .case => "CaseNamer"
  s!"{kind} \x7b rules: {namer.rules.label} \x7d"

end Namer

-- What is asked of a namer, whatever its strategy and its rules.
structure Naming where
  typeName : String → String
  constantName : String → String
  memberName : String → String
  simplify : String → String := baseName
  description : String

def Namer.naming (namer : Namer) : Naming where
  typeName := namer.typeName
  constantName := namer.constantName
  memberName := namer.memberName
  description := namer.describe

instance : Coe Namer Naming := ⟨Namer.naming⟩

instance : Inhabited Naming := ⟨(default : Namer).naming⟩

end ResourceEmbedding
