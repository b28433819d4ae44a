import ResourceEmbedding.Generation.Outcome
import ResourceEmbedding.Generator.Embed
import ResourceEmbedding.Generator.Lazy
import ResourceEmbedding.Generator.Messages

namespace ResourceEmbedding

abbrev Catalog := KeyMap Generator

namespace Catalog

def register (catalog : Catalog) (generator : Generator) : Catalog :=
  catalog.insert generator.name generator

def standard : Catalog :=
  [Generator.embed, Generator.lazy, Generator.messages].foldl register default

-- Keeps the first definition of each symbol of each kind, and reports the others; `kept` holds the
-- symbols kept so far with what they derive from.
def dropCollisionsFrom (request : Request) (kept : List ((SymbolKind × String) × String)) :
    List Definition → Logged (List Definition)
  | [] => return []
  | d :: rest => do
    let symbol := (d.symbolKind, d.symbol)
    match kept.lookup symbol with
    | none => return d :: (← dropCollisionsFrom request ((symbol, d.origin) :: kept) rest)
    | some first =>
      request.error (Failure.namingCollision d.symbol first d.origin).message
      dropCollisionsFrom request kept rest

def dropCollisions (request : Request) (items : List Definition) : Logged (List Definition) :=
  dropCollisionsFrom request [] items

def choose (catalog : Catalog) (request : Request) (name : String) : Except Failure Generator := do
  let some generator := catalog.get? name | throw (.unknownHandler name)
  let schema ← generator.schema
  (schema.check request.settings).mapError .setting
  return generator

-- A run never fails: what goes wrong is a diagnostic, and the outcome says how far the run came.
def run (catalog : Catalog) (request : Request) (name : String) : Logged Outcome := do
  let outcome (status : OutcomeStatus) (items : List Definition) : Outcome :=
    ⟨name, request.package, request.site, status, items⟩
  match catalog.choose request name with
  | .error e =>
    request.error e.message
    return outcome .skipped []
  | .ok generator =>
    match ← (generator.generate request).run with
    | .ok items => return outcome .generated (← dropCollisions request items)
    | .error e =>
      request.error e.message
      return outcome .failed []

def runAll (catalog : Catalog) (groups : List (String × Request)) : Logged (List Outcome) :=
  groups.mapM fun (name, request) => catalog.run request name

end Catalog

end ResourceEmbedding
