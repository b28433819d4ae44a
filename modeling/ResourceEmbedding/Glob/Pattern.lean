namespace ResourceEmbedding.Glob

inductive Token
  | literal (c : Char)
  -- Bytes of one part of a path, without a slash.
  | anyByte
  | anyBytes
  -- Any number of parts at the front.
  | leadingParts
  -- A slash with any number of parts behind it, and a slash behind each of them.
  | innerParts
  -- A slash and anything behind it.
  | trailingParts
  | oneOf (negated : Bool) (ranges : List (Char × Char))
  -- One of some sequences; none at all stand for the empty text.
  | alternatives (branches : List (List Token))

inductive Fault
  | unclosedClass
  | invalidRange (first last : Char)
  | unopenedAlternatives
  | unclosedAlternatives
  | danglingBackslash
deriving DecidableEq, Repr

structure CharClass where
  -- The ranges read so far, last first.
  ranges : List (Char × Char) := []
  -- Whether a hyphen behind a character was read last.
  inRange : Bool := false

-- Takes one more character in brackets. A hyphen stands for itself at either end.
def CharClass.push (k : CharClass) (c : Char) : Except Fault CharClass :=
  match k.inRange, k.ranges with
  | true, (first, _) :: rest =>
    if first ≤ c then .ok ⟨(first, c) :: rest, false⟩ else .error (.invalidRange first c)
  | _, [] => .ok ⟨[(c, c)], false⟩
  | _, ranges => .ok (if c = '-' then ⟨ranges, true⟩ else ⟨(c, c) :: ranges, false⟩)

def CharClass.finish (k : CharClass) : List (Char × Char) :=
  (if k.inRange then ('-', '-') :: k.ranges else k.ranges).reverse

-- Reads a class up to its closing bracket, and gives its ranges and what follows. A bracket that
-- comes first stands for itself.
def readClass (k : CharClass) : List Char → Except Fault (List (Char × Char) × List Char)
  | [] => .error .unclosedClass
  | c :: rest =>
    if c = ']' && !k.ranges.isEmpty then .ok (k.finish, rest)
    else match k.push c with
      | .ok k => readClass k rest
      | .error fault => .error fault

-- Braces that are not closed yet: the branches read, last first, and what stands in front.
structure OpenGroup where
  branches : List (List Token)
  outer : List Token

structure Reading where
  -- The tokens of the innermost sequence, last first.
  tokens : List Token := []
  groups : List OpenGroup := []
  previous : Option Char := none

namespace Reading

def push (r : Reading) (t : Token) (previous : Char) : Reading :=
  { r with tokens := t :: r.tokens, previous }

-- The end of a branch. One that stands for nothing but the empty text is left out.
def branchesOf (tokens : List Token) (branches : List (List Token)) : List (List Token) :=
  let isVoid : Token → Bool
    | .alternatives [] => true
    | _ => false
  if tokens.all isVoid then branches else tokens.reverse :: branches

-- Two stars with nothing special about their place.
def pushStars (r : Reading) : Reading :=
  { r with tokens := .anyBytes :: .anyBytes :: r.tokens, previous := '*' }

-- Puts `t` in the place of the last token, unless that one stands for parts of a path at an end of
-- it already.
def replaceLast (r : Reading) (t : Token) : Reading :=
  match r.tokens with
  | .leadingParts :: _ | .trailingParts :: _ => r
  | _ :: rest => { r with tokens := t :: rest }
  | [] => { r with tokens := [t] }

-- Reads two stars, in front of `rest`, and with them the slash that follows; gives what is left.
def readStars (r : Reading) (rest : List Char) : Reading × List Char :=
  if r.tokens.isEmpty then
    match rest with
    | [] => (r.push .leadingParts '*', [])
    | '/' :: rest => (r.push .leadingParts '/', rest)
    | _ => (r.pushStars, rest)
  else
    let inGroup := !r.groups.isEmpty
    let bounded := r.previous == some '/' ||
      (inGroup && (r.previous == some ',' || r.previous == some '\x7b'))
    match bounded, rest with
    | true, [] => ({ r.replaceLast .trailingParts with previous := '*' }, [])
    | true, '/' :: rest => ({ r.replaceLast .innerParts with previous := '/' }, rest)
    | true, c :: _ =>
      if inGroup && (c = ',' || c = '\x7d') then
        ({ r.replaceLast .trailingParts with previous := '*' }, rest)
      else (r.pushStars, rest)
    | false, _ => (r.pushStars, rest)

def readElement (lenient : Bool) (r : Reading) (c : Char) (rest : List Char) :
    Except Fault (Reading × List Char) :=
  match c with
  | '?' => .ok (r.push .anyByte c, rest)
  | '*' =>
    match rest with
    | '*' :: rest => .ok (r.readStars rest)
    | _ => .ok (r.push .anyBytes c, rest)
  | '[' =>
    let (negated, inner) := match rest with
      | '!' :: inner | '^' :: inner => (true, inner)
      | inner => (false, inner)
    match readClass {} inner with
    | .ok (ranges, rest) => .ok (r.push (.oneOf negated ranges) ']', rest)
    | .error .unclosedClass =>
      if lenient then .ok (r.push (.literal '[') c, rest) else .error .unclosedClass
    | .error fault => .error fault
  | '\x7b' => .ok (⟨[], ⟨[], r.tokens⟩ :: r.groups, c⟩, rest)
  | '\x7d' =>
    match r.groups with
    | [] => .error .unopenedAlternatives
    | group :: groups =>
      let branches := (branchesOf r.tokens group.branches).reverse
      .ok (⟨.alternatives branches :: group.outer, groups, c⟩, rest)
  | ',' =>
    match r.groups with
    | [] => .ok (r.push (.literal c) c, rest)
    | group :: groups =>
      let group := { group with branches := branchesOf r.tokens group.branches }
      .ok (⟨[], group :: groups, c⟩, rest)
  | '\\' =>
    match rest with
    | [] => .error .danglingBackslash
    | escaped :: rest => .ok (r.push (.literal escaped) escaped, rest)
  | c => .ok (r.push (.literal c) c, rest)

-- Reads the rest of a pattern. Each element takes a character at least, so the length of the rest
-- bounds the number of steps.
def readAll (lenient : Bool) (r : Reading) : Nat → List Char → Except Fault (List Token)
  | _, [] => if r.groups.isEmpty then .ok r.tokens.reverse else .error .unclosedAlternatives
  | 0, _ => .ok r.tokens.reverse
  | bound + 1, c :: rest =>
    match r.readElement lenient c rest with
    | .ok (r, rest) => readAll lenient r bound rest
    | .error fault => .error fault

end Reading

end Glob

structure Glob where
  tokens : List Glob.Token

-- Reads a pattern. A lenient reader takes a bracket without its counterpart as a character.
def Glob.read (lenient : Bool) (pattern : List Char) : Except Glob.Fault Glob := do
  return ⟨← Reading.readAll lenient {} pattern.length pattern⟩

end ResourceEmbedding
