import ResourceEmbedding.Generator.Basic
import ResourceEmbedding.Segment.Splitter

namespace ResourceEmbedding.Generator.Embed

def schema : Except Failure Schema :=
  (Schema.ofDeclarations "embed" [
    binaryDeclaration,
    ⟨"max_bytes",
      s!"Largest encoded size of one segment in bytes (>= {leastBudget}, default {defaultBudget})",
      .sizeAtLeast leastBudget⟩,
    namingDeclaration,
    onMissing.declaration]).mapError .setting

def config (request : Request) : SegmentConfig where
  maxBytes := Settings.getSize request.settings "max_bytes" defaultBudget
  encoding := if isBinary request then .latin1 else .utf8

def textsFrom (index : Nat) : List Segment → Except SegmentError (List String)
  | [] => .ok []
  | s :: rest =>
    match s.toString? with
    | none => .error (.splitSurrogate index)
    | some text => (textsFrom (index + 1) rest).map (text :: ·)

def constantOf (name path : String) (segments : List Segment) :
    SourceEncoding → Except SegmentError Definition
  | .latin1 =>
    .ok (.bytesConstant name path (segments.map (·.toStringLossy)) (total (·.length) segments))
  | .utf8 => do
    let texts ← textsFrom 0 segments
    return .textConstant name path texts (total (·.encodedLength) segments)

def embedOne (request : Request) (resource : Resource) (config : SegmentConfig) :
    Except Failure Definition := do
  let source ← resource.opening.mapError (.ofStream resource.path)
  let name := request.namer.constantName (request.namer.simplify resource.path)
  (do constantOf name resource.path (← segments source config) config.encoding).mapError
    (.ofSegment resource.path)

def attempt (request : Request) (config : SegmentConfig) (resource : Resource) :
    Processing (Option Definition) :=
  match embedOne request resource config with
  | .ok d => return some d
  | .error e => do
    if e.isMissing then
      let _ ← onMissing.report request e.message
      return none
    else if e.isRecoverable then
      request.error e.message
      return none
    else throw e

def generate (request : Request) : Processing (List Definition) :=
  let request := applyNaming request
  request.resources.filterMapM (attempt request (config request))

end ResourceEmbedding.Generator.Embed

namespace ResourceEmbedding.Generator

def embed : Generator :=
  ⟨"embed", Embed.schema, Embed.generate⟩

end ResourceEmbedding.Generator
