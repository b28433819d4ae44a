import ResourceEmbedding.Text.CaseTable

namespace ResourceEmbedding.Text

def isAscii (c : Char) : Bool :=
  c.toNat < 0x80

def isLowercase (c : Char) : Bool :=
  if isAscii c then c.isLower else Run.anyContains CaseTable.lowercase c.toNat

def isUppercase (c : Char) : Bool :=
  if isAscii c then c.isUpper else Run.anyContains CaseTable.uppercase c.toNat

def isNumeric (c : Char) : Bool :=
  if isAscii c then c.isDigit else Run.anyContains CaseTable.numeric c.toNat

def isCased (c : Char) : Bool :=
  if isAscii c then c.isAlpha else Run.anyContains CaseTable.cased c.toNat

-- Characters that are looked through when the end of a word is sought.
def isCaseIgnorable (c : Char) : Bool :=
  if isAscii c then c ∈ ['\'', '.', ':', '^', '\x60'] else
    Run.anyContains CaseTable.caseIgnorable c.toNat

def lowerChar (c : Char) : List Char :=
  if isAscii c then [c.toLower]
  else if c = '\u0130' then ['i', '\u0307']
  else [((Shift.imageOf? CaseTable.toLower c.toNat).map Char.ofNat).getD c]

def upperChar (c : Char) : List Char :=
  if isAscii c then [c.toUpper]
  else match CaseTable.toUpperFull.lookup c.toNat with
    | some image => image.map Char.ofNat
    | none => [((Shift.imageOf? CaseTable.toUpper c.toNat).map Char.ofNat).getD c]

def capitalSigma : Char := '\u03A3'
def smallSigma : Char := '\u03C3'
def finalSigma : Char := '\u03C2'

-- Whether the first character that is not looked through is a cased letter.
def meetsCased (cs : List Char) : Bool :=
  ((cs.dropWhile isCaseIgnorable).head?.map isCased).getD false

-- The lower-case form of a word whose characters before the current one are `before`, nearest
-- first. A capital sigma is final when a cased letter stands before it and none after it.
def lowerFrom (before : List Char) : List Char → List Char
  | [] => []
  | c :: rest =>
    let image :=
      if c = capitalSigma then
        [if meetsCased before && !meetsCased rest then finalSigma else smallSigma]
      else lowerChar c
    image ++ lowerFrom (c :: before) rest

def lowerWord (cs : List Char) : List Char :=
  lowerFrom [] cs

def upperWord (cs : List Char) : List Char :=
  cs.flatMap upperChar

-- The first character in upper case, the others in lower case, each mapped on its own.
def titleWord : List Char → List Char
  | [] => []
  | c :: rest => upperChar c ++ rest.flatMap lowerChar

end ResourceEmbedding.Text
