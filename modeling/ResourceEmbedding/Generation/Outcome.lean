import ResourceEmbedding.Generation.Definition
import ResourceEmbedding.Generation.Diagnostic

namespace ResourceEmbedding

inductive OutcomeStatus
  | generated
  -- The handler did not run: it is unknown, or the settings are rejected.
  | skipped
  | failed
deriving DecidableEq, Repr

namespace OutcomeStatus

def all : List OutcomeStatus := [.generated, .skipped, .failed]

def name : OutcomeStatus → String
  | .generated => "generated"
  | .skipped => "skipped"
  | .failed => "failed"

instance : JsonForm OutcomeStatus := .ofNames all name

end OutcomeStatus

structure Outcome where
  handler : String
  package : String
  site : Site
  status : OutcomeStatus
  items : List Definition

namespace Outcome

def isGenerated (o : Outcome) : Bool :=
  o.status == .generated

instance : JsonForm Outcome where
  toJson o := .object [("handler", toJson o.handler), ("package", toJson o.package),
    ("site", toJson o.site), ("status", toJson o.status), ("items", toJson o.items)]
  ofJson? j := do
    return ⟨← j.required? "handler", ← j.required? "package", ← j.required? "site",
      ← j.required? "status", ← j.required? "items"⟩

end Outcome

end ResourceEmbedding
