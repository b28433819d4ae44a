import ResourceEmbedding.Segment.Failure

namespace ResourceEmbedding

inductive ReadAnswer
  -- The next bytes. None at all mean the end of the source, and so does the end of the answers.
  | bytes (bytes : List UInt8)
  -- The request was cut short before any byte came; it may be repeated.
  | interrupted
  | failed (failure : StreamFailure)
deriving DecidableEq, Repr

abbrev Source := List ReadAnswer

namespace Source

-- The most bytes that are requested at a time.
def blockSize : Nat := 8192

-- `bytes` in blocks of at most `size + 1` bytes; `block` holds the bytes of the current one, last
-- first, and `room` says how many more it takes.
def blocksFrom (size : Nat) (block : List UInt8) (room : Nat) : List UInt8 → List (List UInt8)
  | [] => if block.isEmpty then [] else [block.reverse]
  | b :: rest =>
    match room with
    | 0 => block.reverse :: blocksFrom size [b] size rest
    | room + 1 => blocksFrom size (b :: block) room rest

def blocks (bytes : List UInt8) : List (List UInt8) :=
  blocksFrom (blockSize - 1) [] blockSize bytes

def ofBytes (bytes : List UInt8) : Source :=
  (blocks bytes).map .bytes

inductive ReadPlan
  | atMost (count : Nat)
  | fail (failure : StreamFailure)
deriving DecidableEq, Repr

-- The answer to a request that fails. An interruption is no failure of the source.
def answerFailure (failure : StreamFailure) : ReadAnswer :=
  if failure.kind = .interrupted then .interrupted else .failed failure

def planned (bytes : List UInt8) : List ReadPlan → Source
  | [] => ofBytes bytes
  | .atMost count :: plan =>
    let count := min count blockSize
    .bytes (bytes.take count) :: planned (bytes.drop count) plan
  | .fail failure :: plan => answerFailure failure :: planned bytes plan

def failingAfter (bytes : List UInt8) (failure : StreamFailure) : Source :=
  ofBytes bytes ++ [answerFailure failure]

-- All bytes up to the end of the source, after those of `done`, last block first.
def readAllOnto (done : List (List UInt8)) : Source → Except StreamFailure (List UInt8)
  | [] | .bytes [] :: _ => .ok done.reverse.flatten
  | .bytes bs :: rest => readAllOnto (bs :: done) rest
  | .interrupted :: rest => readAllOnto done rest
  | .failed failure :: _ => .error failure

def readAll (source : Source) : Except StreamFailure (List UInt8) :=
  readAllOnto [] source

end Source

end ResourceEmbedding
