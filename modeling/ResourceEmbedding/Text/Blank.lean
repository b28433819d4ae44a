namespace ResourceEmbedding.Text

-- The Unicode property `White_Space`.
def isBlank (c : Char) : Bool :=
  let n := c.toNat
  n == 0x20 || (0x9 ≤ n && n ≤ 0xD) || n == 0x85 || n == 0xA0 || n == 0x1680 ||
    (0x2000 ≤ n && n ≤ 0x200A) || n == 0x2028 || n == 0x2029 || n == 0x202F || n == 0x205F ||
    n == 0x3000

def trimStart (cs : List Char) : List Char :=
  cs.dropWhile isBlank

def trimEnd (cs : List Char) : List Char :=
  (cs.reverse.dropWhile isBlank).reverse

def trim (cs : List Char) : List Char :=
  trimEnd (trimStart cs)

def trimmed (s : String) : String :=
  .ofList (trim s.toList)

def asciiLower (s : String) : String :=
  .ofList (s.toList.map Char.toLower)

-- The spelling under which keywords are compared: trimmed, ASCII letters in lower case.
def keyword (s : String) : String :=
  asciiLower (trimmed s)

end ResourceEmbedding.Text
