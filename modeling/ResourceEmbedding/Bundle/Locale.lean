import ResourceEmbedding.Text.Split

namespace ResourceEmbedding.Locale

def isUnderscore (c : Char) : Bool :=
  c == '_'

def isLanguage (part : List Char) : Bool :=
  (part.length == 2 || part.length == 3) && part.all Char.isLower

def isRegion (part : List Char) : Bool :=
  (part.length == 2 && part.all Char.isUpper) || (part.length == 3 && part.all Char.isDigit)

def isVariant (part : List Char) : Bool :=
  !part.isEmpty && part.all Char.isAlphanum

-- Whether these parts may follow a language.
def isTail : List (List Char) → Bool
  | [] => true
  | region :: variants => isRegion region && variants.all isVariant

-- The parts before a locale tag and those of the tag. The tag starts at the first part that allows
-- it; `base` holds the parts before, last first.
def splitFrom (base : List (List Char)) :
    List (List Char) → Option (List (List Char) × List (List Char))
  | [] => none
  | part :: rest =>
    if isLanguage part && isTail rest then some (base.reverse, part :: rest)
    else splitFrom (part :: base) rest

-- The base name and the locale tag of a file name that ends in one. An empty base name is none.
def split? (name : List Char) : Option (List Char × List Char) :=
  match Text.splitAt isUnderscore name with
  | [] => none
  | first :: rest =>
    match splitFrom [first] rest with
    | none | some ([[]], _) => none
    | some (base, tag) => some (['_'].intercalate base, ['_'].intercalate tag)

end ResourceEmbedding.Locale
