import ResourceEmbedding.Template.Failure
import ResourceEmbedding.Template.Shape
import ResourceEmbedding.Text.Digits

namespace ResourceEmbedding

namespace Template

-- A fault and its offset in bytes.
abbrev Located := Nat × TemplateFault

def cutAtComma (cs : List Char) : List Char × Option (List Char) :=
  match cs.dropWhile (· != ',') with
  | [] => (cs, none)
  | _ :: rest => (cs.takeWhile (· != ','), some rest)

def bodyParts (body : List Char) : List Char × Option (List Char) × Option (List Char) :=
  let (index, rest) := cutAtComma body
  match rest with
  | none => (index, none, none)
  | some rest =>
    let (format, style) := cutAtComma rest
    (index, some format, style)

def readIndex (raw : List Char) : Except TemplateFault Nat :=
  if raw.isEmpty then .error .missingIndex
  else if !raw.all Char.isDigit then .error (.malformedIndex (.ofList raw))
  else if largestIndex < Text.decimalValue raw then .error (.excessiveIndex (.ofList raw))
  else .ok (Text.decimalValue raw)

-- A part that is left out when it is blank.
def unlessBlank (part : Option (List Char)) : Option String :=
  match part.map Text.trim with
  | none | some [] => none
  | some cs => some (.ofList cs)

def readBody (body : List Char) : Except TemplateFault Placeholder := do
  let (index, format, style) := bodyParts body
  let index ← readIndex (Text.trim index)
  return ⟨index, .ofFormat (format.map .ofList), unlessBlank format, unlessBlank style⟩

structure Opened where
  offset : Nat
  depth : Nat
  -- The characters behind its opening brace, last first.
  body : List Char
deriving DecidableEq, Repr

structure Scan where
  -- How many bytes are read.
  offset : Nat
  quoted : Bool
  opened : Option Opened
  -- The complete placeholders, last first.
  found : List Placeholder
deriving DecidableEq, Repr

namespace Scan

def start : Scan :=
  ⟨0, false, none, []⟩

def pushOutside (s : Scan) (c : Char) : Except Located Scan :=
  if s.quoted then .ok s
  else if c = '\x7b' then .ok { s with opened := some ⟨s.offset, 0, []⟩ }
  else if c = '\x7d' then .error (s.offset, .unmatchedClose)
  else .ok s

def pushInside (s : Scan) (o : Opened) (c : Char) : Except Located Scan :=
  let inner (depth : Nat) : Scan :=
    { s with opened := some { o with depth, body := c :: o.body } }
  if s.quoted then .ok (inner o.depth)
  else if c = '\x7b' then .ok (inner (o.depth + 1))
  else if c = '\x7d' then
    match o.depth with
    | depth + 1 => .ok (inner depth)
    | 0 =>
      match readBody o.body.reverse with
      | .ok p => .ok { s with opened := none, found := p :: s.found }
      | .error fault => .error (o.offset + 1, fault)
  else .ok (inner o.depth)

-- Apostrophes switch quoting on and off, so a pair of them leaves it as it was, and only braces
-- outside quotes count.
def push (s : Scan) (c : Char) : Except Located Scan := do
  let s ← match s.opened with
    | none => s.pushOutside c
    | some o => s.pushInside o c
  return { s with offset := s.offset + c.utf8Size, quoted := s.quoted != (c == '\'') }

def finish (s : Scan) : Except Located (List Placeholder) :=
  match s.opened with
  | none => .ok s.found.reverse
  | some o => .error (o.offset, if s.quoted then .openQuote else .unmatchedOpen)

end Scan

def placeholders (template : List Char) : Except Located (List Placeholder) := do
  (← template.foldlM Scan.push .start).finish

end Template

def analyze (template : String) : Except TemplateError Shape :=
  match Template.placeholders template.toList with
  | .ok found => .ok (.ofPlaceholders found)
  | .error (offset, fault) => .error ⟨template, offset, fault⟩

end ResourceEmbedding
