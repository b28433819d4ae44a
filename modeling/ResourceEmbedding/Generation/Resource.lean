import ResourceEmbedding.Segment.Source

namespace ResourceEmbedding

structure Resource where
  -- The path from the resource root, with a slash between its parts. It identifies the resource.
  path : String
  opening : Except StreamFailure Source

namespace Resource

def ofBytes (path : String) (bytes : List UInt8) : Resource :=
  ⟨path, .ok (.ofBytes bytes)⟩

def readAll (r : Resource) : Except StreamFailure (List UInt8) := do
  (← r.opening).readAll

end Resource

-- The path of a resource below its root: a backslash separates like a slash.
def slashed (path : String) : String :=
  .ofList (path.toList.map fun c => if c == '\\' then '/' else c)

end ResourceEmbedding
