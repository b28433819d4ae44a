namespace ResourceEmbedding

structure IdentifierRules where
  -- Names the rules in descriptions of a request.
  label : String
  isStart : Char → Bool
  isContinue : Char → Bool
  -- Words of legal characters that are no identifiers all the same.
  reserved : List String

namespace IdentifierRules

def isReserved (rules : IdentifierRules) (word : List Char) : Bool :=
  rules.reserved.any (·.toList == word)

def accepts (rules : IdentifierRules) : List Char → Bool
  | [] => false
  | c :: rest => rules.isStart c && rest.all rules.isContinue && !rules.isReserved (c :: rest)

def isAsciiStart (c : Char) : Bool :=
  c.isAlpha || c == '_'

def isAsciiContinue (c : Char) : Bool :=
  c.isAlphanum || c == '_'

def rust : IdentifierRules where
  label := "RustIdentifiers"
  isStart := isAsciiStart
  isContinue := isAsciiContinue
  reserved := [
    "_", "Self", "abstract", "as", "async", "await", "become", "box", "break", "const",
    "continue", "crate", "do", "dyn", "else", "enum", "extern", "false", "final", "fn", "for",
    "gen", "if", "impl", "in", "let", "loop", "macro", "match", "mod", "move", "mut", "override",
    "priv", "pub", "ref", "return", "self", "static", "struct", "super", "trait", "true", "try",
    "type", "typeof", "unsafe", "unsized", "use", "virtual", "where", "while", "yield"]

end IdentifierRules

end ResourceEmbedding
