import ResourceEmbedding.Segment.Basic
import ResourceEmbedding.Segment.Decoder

namespace ResourceEmbedding

-- The longest run of leading units within `budget`: its length and its cost, counted on from
-- `count` and `used`.
def longestWithin (budget : Nat) (count used : Nat) : List UInt16 → Nat × Nat
  | [] => (count, used)
  | u :: rest =>
    if used + unitCost u ≤ budget then longestWithin budget (count + 1) (used + unitCost u) rest
    else (count, used)

def partsPair (units : List UInt16) (count : Nat) : Bool :=
  match units.drop (count - 1) with
  | u :: v :: _ => Utf16.isHigh u && Utf16.isLow v
  | _ => false

def surrogateCost : Nat := 3

-- Where the next segment ends and what it costs: as late as the budget allows, but one unit earlier
-- where that keeps a surrogate pair together and the segment not empty.
def cut (budget : Nat) (units : List UInt16) : Nat × Nat :=
  let (count, used) := longestWithin budget 0 0 units
  if 1 < count && partsPair units count then (count - 1, used - surrogateCost) else (count, used)

structure Splitter where
  config : SegmentConfig
  decoder : Decoder
  lookahead : List UInt16
  produced : Nat
  finished : Bool
deriving DecidableEq, Repr

namespace Splitter

def start (source : Source) (config : SegmentConfig) : Except SegmentError Splitter :=
  match config.problem? with
  | some reason => .error (.invalidConfig reason)
  | none => .ok ⟨config, .start source config.encoding, [], 0, false⟩

-- Every unit costs a byte at least, so one unit more than the budget shows where the segment ends
-- and whether the end would part a surrogate pair. After a failure there is no segment.
def next (s : Splitter) : Except SegmentError (Option Segment) × Splitter :=
  if s.finished then (.ok none, s)
  else
    let (result, lookahead, decoder) := s.decoder.fill s.config.maxBytes s.lookahead
    match result with
    | .error e => (.error e, { s with decoder, lookahead, finished := true })
    | .ok () =>
      let (count, used) := cut s.config.maxBytes lookahead
      if count = 0 then (.ok none, { s with decoder, lookahead, finished := true })
      else
        (.ok (some ⟨lookahead.take count, used⟩),
          { s with decoder, lookahead := lookahead.drop count, produced := s.produced + 1 })

def nextItem (s : Splitter) : Option (Except SegmentError Segment) × Splitter :=
  match s.next with
  | (.ok (some segment), s) => (some (.ok segment), s)
  | (.ok none, s) => (none, s)
  | (.error e, s) => (some (.error e), s)

-- No fewer than the segments still to come: each of them takes a unit, and a unit comes from a byte
-- of its own at least.
def weight (s : Splitter) : Nat :=
  let bytes := s.decoder.source |> total fun
    | .bytes bs => bs.length
    | _ => 0
  s.lookahead.length + s.decoder.pending.length + bytes

-- At most `fuel` more segments, after those of `done`, last first.
def collectOnto (done : List Segment) (s : Splitter) : Nat → Except SegmentError (List Segment)
  | 0 => .ok done.reverse
  | fuel + 1 =>
    match s.next with
    | (.ok (some segment), s) => collectOnto (segment :: done) s fuel
    | (.ok none, _) => .ok done.reverse
    | (.error e, _) => .error e

def collect (s : Splitter) : Except SegmentError (List Segment) :=
  s.collectOnto [] (s.weight + 1)

end Splitter

def segments (source : Source) (config : SegmentConfig) : Except SegmentError (List Segment) := do
  (← Splitter.start source config).collect

def splitText (s : String) (maxBytes : Nat) : Except SegmentError (List Segment) :=
  segments (.ofBytes (Utf8.encode s)) ⟨maxBytes, .utf8⟩

def splitBytes (bytes : List UInt8) (maxBytes : Nat) : Except SegmentError (List Segment) :=
  segments (.ofBytes bytes) ⟨maxBytes, .latin1⟩

end ResourceEmbedding
