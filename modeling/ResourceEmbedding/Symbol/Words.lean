import ResourceEmbedding.Text.Casing

namespace ResourceEmbedding.Words

def isBoundary (p c : Char) : Bool :=
  (Text.isLowercase p && Text.isUppercase c) || (Text.isNumeric p && !Text.isNumeric c)

-- The words of the rest of an identifier, after the characters of `current`, the word being read,
-- last first.
def splitFrom (current : List Char) : List Char → List (List Char)
  | [] => if current.isEmpty then [] else [current.reverse]
  | c :: rest =>
    if c = '_' then
      if current.isEmpty then splitFrom [] rest else current.reverse :: splitFrom [] rest
    else match current with
      | [] => splitFrom [c] rest
      | p :: before =>
        if isBoundary p c then (p :: before).reverse :: splitFrom [c] rest
        else splitFrom (c :: p :: before) rest

def split (identifier : List Char) : List (List Char) :=
  splitFrom [] identifier

-- All words capitalised: `FooBar`.
def capitalised (words : List (List Char)) : List Char :=
  words.flatMap Text.titleWord

-- All words in upper case, underscores between them: `FOO_BAR`.
def shouted (words : List (List Char)) : List Char :=
  ['_'].intercalate (words.map Text.upperWord)

-- The first word in lower case, the others capitalised: `fooBar`.
def humped : List (List Char) → List Char
  | [] => []
  | first :: rest => Text.lowerWord first ++ capitalised rest

end ResourceEmbedding.Words
