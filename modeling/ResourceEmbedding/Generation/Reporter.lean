import ResourceEmbedding.Generation.Request
import ResourceEmbedding.Setting.Schema

namespace ResourceEmbedding

structure Reporter where
  key : String
  description : String
deriving DecidableEq, Repr

namespace Reporter

def declaration (r : Reporter) : Declaration where
  key := r.key
  description := s!"{r.description} (ignore|warning|error, default error)"
  check := .oneOf (ReportLevel.all.map (·.name))

def level (r : Reporter) (request : Request) : ReportLevel :=
  ((request.setting? r.key).bind fun value => (ReportLevel.read value).toOption).getD default

-- Reports a message, and tells at which level.
def report (r : Reporter) (request : Request) (message : String) : Logged ReportLevel := do
  let level := r.level request
  if let some severity := level.severity? then request.report severity message
  return level

end Reporter

end ResourceEmbedding
