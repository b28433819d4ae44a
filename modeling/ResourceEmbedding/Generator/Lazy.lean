import ResourceEmbedding.Generator.Basic

namespace ResourceEmbedding.Generator.Lazy

def schema : Except Failure Schema :=
  (Schema.ofDeclarations "lazy" [
    binaryDeclaration,
    ⟨"path_constants", "Also generate a constant holding each resource path (true|false)",
      .boolean⟩,
    namingDeclaration,
    onMissing.declaration]).mapError .setting

-- The definitions for one resource. It is opened, so that a resource that is not there is found out
-- now and not at run time.
def definitionsOf (request : Request) (resource : Resource) : Logged (List Definition) := do
  let path := resource.path
  match resource.opening with
  | .error cause =>
    let e := Failure.ofStream path cause
    if e.isMissing then let _ ← onMissing.report request e.message
    else request.error e.message
    return []
  | .ok _ =>
    let base := request.namer.simplify path
    let accessor := .lazyAccessor (request.namer.memberName base) path (isBinary request)
    if Settings.getBool request.settings "path_constants" false then
      return [accessor, .pathConstant (request.namer.constantName (base ++ "_path")) path]
    else return [accessor]

def definitions (request : Request) : Logged (List Definition) :=
  return (← request.resources.mapM (definitionsOf request)).flatten

def generate (request : Request) : Processing (List Definition) :=
  definitions (applyNaming request)

end ResourceEmbedding.Generator.Lazy

namespace ResourceEmbedding.Generator

def lazy : Generator :=
  ⟨"lazy", Lazy.schema, Lazy.generate⟩

end ResourceEmbedding.Generator
