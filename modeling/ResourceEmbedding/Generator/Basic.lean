import ResourceEmbedding.Generation.Definition
import ResourceEmbedding.Generation.Reporter

namespace ResourceEmbedding

structure Generator where
  name : String
  schema : Except Failure Schema
  -- Problems with single resources are reported, and the resources passed over; a failure ends the
  -- run.
  generate : Request → Processing (List Definition)

namespace Generator

def onMissing : Reporter :=
  ⟨"on_missing", "How to report resources that cannot be found"⟩

def namingDeclaration : Declaration :=
  ⟨"naming", "Symbol naming strategy (sanitizing|case)", .oneOf (NamingStrategy.all.map (·.name))⟩

def binaryDeclaration : Declaration :=
  ⟨"binary", "Treat resources as raw bytes instead of UTF-8 text (true|false)", .boolean⟩

def isBinary (request : Request) : Bool :=
  Settings.getBool request.settings "binary" false

-- The request with the namer that its settings choose, if they choose one.
def applyNaming (request : Request) : Request :=
  match Settings.get? request.settings "naming" fun s => (NamingStrategy.read s).toOption with
  | some strategy => request.withNamer (Namer.ofStrategy strategy)
  | none => request

end Generator

end ResourceEmbedding
