import ResourceEmbedding.Glob.Pattern
import ResourceEmbedding.Text.Utf8

namespace ResourceEmbedding.Glob

def slash : UInt8 := 0x2F

-- Ranges of bytes that stand for a range of characters. The bytes of the first character and those
-- of the last one follow each other, with the range between the two that meet.
def byteRanges (range : Char × Char) : List (UInt8 × UInt8) :=
  let single (b : UInt8) : UInt8 × UInt8 := (b, b)
  let first := Utf8.ofChar range.1
  if range.1 = range.2 then first.map single
  else
    match first.reverse, Utf8.ofChar range.2 with
    | low :: before, high :: behind => before.map single ++ (low, high) :: behind.map single
    | _, _ => []

def isInClass (ranges : List (Char × Char)) (b : UInt8) : Bool :=
  (ranges.flatMap byteRanges).any fun (low, high) => low ≤ b && b ≤ high

def ends : List UInt8 → List (List UInt8)
  | [] => [[]]
  | b :: rest => (b :: rest) :: ends rest

-- What follows some bytes of one part, in all ways.
def endsInPart : List UInt8 → List (List UInt8)
  | [] => [[]]
  | b :: rest => (b :: rest) :: if b = slash then [] else endsInPart rest

def afterSlashes : List UInt8 → List (List UInt8)
  | [] => []
  | b :: rest => if b = slash then rest :: afterSlashes rest else afterSlashes rest

mutual

-- What is left of a path behind a token, in all ways.
def Token.rests : Token → List UInt8 → List (List UInt8)
  | .literal c, path =>
    let bytes := Utf8.ofChar c
    if bytes.isPrefixOf path then [path.drop bytes.length] else []
  | .anyByte, path =>
    match path with
    | b :: rest => if b = slash then [] else [rest]
    | [] => []
  | .anyBytes, path => endsInPart path
  | .leadingParts, path => path :: afterSlashes path
  | .innerParts, path =>
    match path with
    | b :: rest => if b = slash then rest :: afterSlashes rest else []
    | [] => []
  | .trailingParts, path =>
    match path with
    | b :: rest => if b = slash then ends rest else []
    | [] => []
  | .oneOf negated ranges, path =>
    match path with
    | b :: rest => if isInClass ranges b != negated then [rest] else []
    | [] => []
  | .alternatives [], path => [path]
  | .alternatives (branch :: branches), path =>
    restsBehind branch [path] ++ restsBehindAny branches path

def restsBehind : List Token → List (List UInt8) → List (List UInt8)
  | [], paths => paths
  | t :: ts, paths => restsBehind ts (paths.flatMap fun path => t.rests path).eraseDups

def restsBehindAny : List (List Token) → List UInt8 → List (List UInt8)
  | [], _ => []
  | branch :: branches, path => restsBehind branch [path] ++ restsBehindAny branches path

end

-- Whether the glob matches all of a path. Two stars alone match every path.
def matchesBytes (g : Glob) (path : List UInt8) : Bool :=
  match g.tokens with
  | [.leadingParts] => true
  | tokens => (restsBehind tokens [path]).any (·.isEmpty)

def isMatch (g : Glob) (path : String) : Bool :=
  g.matchesBytes (Utf8.encode path)

end ResourceEmbedding.Glob
