import ResourceEmbedding.Segment.Config
import ResourceEmbedding.Segment.Source
import ResourceEmbedding.Text.Utf16
import ResourceEmbedding.Text.Utf8

namespace ResourceEmbedding

structure Decoder where
  source : Source
  encoding : SourceEncoding
  -- Bytes of a character that is not complete yet.
  pending : List UInt8
  offset : Nat
  atEnd : Bool
deriving DecidableEq, Repr

namespace Decoder

def start (source : Source) (encoding : SourceEncoding) : Decoder :=
  ⟨source, encoding, [], 0, false⟩

def decodePending (d : Decoder) : Except SegmentError (List UInt16 × Decoder) :=
  match Utf8.wholeLength d.pending with
  | .error fault => .error (.invalidUtf8 (d.offset + fault.offset))
  | .ok whole =>
    match Utf8.decode (d.pending.take whole) with
    | .error _ => .error (.invalidUtf8 d.offset)
    | .ok cs =>
      .ok (Utf16.ofChars cs,
        { d with pending := d.pending.drop whole, offset := d.offset + whole })

def decodeBlock (d : Decoder) (bytes : List UInt8) :
    Except SegmentError (List UInt16 × Decoder) :=
  match d.encoding with
  | .latin1 => .ok (bytes.map (·.toUInt16), { d with offset := d.offset + bytes.length })
  | .utf8   => decodePending { d with pending := d.pending ++ bytes }

-- How many members `units` lacks to have `count` of them.
def lacking : Nat → List UInt16 → Nat
  | 0, _ => 0
  | count + 1, [] => count + 1
  | count + 1, _ :: units => lacking count units

theorem lacking_eq (count : Nat) (units : List UInt16) :
    lacking count units = count - units.length := by
  induction units generalizing count with
  | nil => cases count <;> rfl
  | cons _ _ ih => cases count <;> simp [lacking, ih]

-- Decodes answers of a source until there are `wanted` units or the source ends; gives the units. A
-- source that ends inside a character is not UTF-8.
def fillFrom (d : Decoder) (wanted : Nat) (source : Source) :
    Except SegmentError Unit × List UInt16 × Decoder :=
  if wanted = 0 || d.atEnd then (.ok (), [], { d with source })
  else match source with
    | [] | .bytes [] :: _ =>
      let d := { d with source := source.tail, atEnd := true }
      (if d.pending.isEmpty then .ok () else .error (.invalidUtf8 d.offset), [], d)
    | .interrupted :: rest => fillFrom d wanted rest
    | .failed failure :: rest => (.error (.stream failure), [], { d with source := rest })
    | .bytes bytes :: rest =>
      match d.decodeBlock bytes with
      | .ok (units, d) =>
        let (result, more, d) := fillFrom d (wanted - units.length) rest
        (result, units ++ more, d)
      | .error e => (.error e, [], { d with source := rest })

-- Decodes until `lookahead` holds more than `budget` units or the source ends.
def fill (budget : Nat) (d : Decoder) (lookahead : List UInt16) :
    Except SegmentError Unit × List UInt16 × Decoder :=
  let (result, units, d) := d.fillFrom (lacking (budget + 1) lookahead) d.source
  (result, lookahead ++ units, d)

end Decoder

end ResourceEmbedding
