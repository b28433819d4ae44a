import ResourceEmbedding.Generation.Logged
import ResourceEmbedding.Generation.Resource
import ResourceEmbedding.Setting.Basic
import ResourceEmbedding.Symbol.Namer

namespace ResourceEmbedding

-- Where the host writes generated sources and copied resources.
structure OutputLocations where
  sources : Option String := none
  resources : Option String := none
deriving DecidableEq, Repr

instance : JsonForm OutputLocations where
  toJson o := .object [("sources", toJson o.sources), ("resources", toJson o.resources)]
  ofJson? j := do
    let _ ← j.fields?
    return ⟨← j.optional? "sources", ← j.optional? "resources"⟩

structure Draft where
  output : OutputLocations := {}
  package : String := ""
  site : Site := {}
  resources : List Resource := []
  settings : List Setting := []
  namer : Naming := default

structure Request extends Draft where
  ordered : resources.Pairwise (·.path < ·.path)

def firstRepeated? : List Resource → Option String
  | r :: s :: rest => if r.path = s.path then some r.path else firstRepeated? (s :: rest)
  | _ => none

def orderByPath (resources : List Resource) : List Resource :=
  resources.mergeSort fun r s => decide (r.path ≤ s.path)

-- The request of a draft, unless two of its resources have one path.
def Draft.build (d : Draft) : Except Failure Request :=
  let resources := orderByPath d.resources
  if ordered : resources.Pairwise (·.path < ·.path) then .ok { d with resources, ordered }
  else .error (.duplicateResource ((firstRepeated? resources).getD ""))

namespace Request

def withSettings (r : Request) (settings : List Setting) : Request :=
  { r with settings }

def withNamer (r : Request) (namer : Naming) : Request :=
  { r with namer }

def withResources (r : Request) (resources : List Resource) : Except Failure Request :=
  { r.toDraft with resources }.build

def setting? (r : Request) (key : String) : Option String :=
  Settings.find? r.settings key

def report (r : Request) (severity : Severity) (message : String) : Logged Unit :=
  .emit ⟨severity, message, some r.site⟩

def error (r : Request) (message : String) : Logged Unit :=
  r.report .error message

def warning (r : Request) (message : String) : Logged Unit :=
  r.report .warning message

-- The request in one line, without the contents of its resources.
def describe (r : Request) : String :=
  let listed (items : List String) : String := "[" ++ ", ".intercalate items ++ "]"
  let setting (s : Setting) : String :=
    s!"OptionPair \x7b key: {Text.quoted s.key}, value: {Text.quoted s.value} \x7d"
  s!"Context \x7b package: {Text.quoted r.package}, site: {r.site.describe}, " ++
    s!"resources: {listed (r.resources.map (Text.quoted ·.path))}, " ++
    s!"options: {listed (r.settings.map setting)}, namer: {r.namer.description}, .. \x7d"

end Request

end ResourceEmbedding
