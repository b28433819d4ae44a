import ResourceEmbedding.Segment.Failure
import ResourceEmbedding.Setting.Failure
import ResourceEmbedding.Template.Failure

namespace ResourceEmbedding

inductive Failure
  | setting (error : SettingError)
  | template (error : TemplateError)
  | resourceMissing (path : String) (cause : StreamFailure)
  | resourceUnreadable (path : String) (cause : StreamFailure)
  | encoding (path : String) (cause : SegmentError)
  | duplicateResource (path : String)
  | namingCollision (symbol first second : String)
  | unknownHandler (name : String)
  -- A message bundle cannot be read, from the line of this number on.
  | bundle (path : String) (line : Nat) (reason : String)
deriving DecidableEq, Repr

namespace Failure

-- A stream failure of a resource; one that is not found is missing.
def ofStream (path : String) (cause : StreamFailure) : Failure :=
  if cause.kind = .notFound then resourceMissing path cause else resourceUnreadable path cause

def ofSegment (path : String) : SegmentError → Failure
  | .stream cause => ofStream path cause
  | cause => encoding path cause

def message : Failure → String
  | setting error => error.message
  | template error => error.message
  | resourceMissing path _ => s!"Resource \x60{path}\x60 is missing"
  | resourceUnreadable path cause =>
    s!"Resource \x60{path}\x60 could not be read: {cause.message}"
  | encoding path cause => s!"Failed to encode \x60{path}\x60: {cause.message}"
  | duplicateResource path => s!"Duplicate resource path \x60{path}\x60"
  | namingCollision symbol first second =>
    s!"Symbol \x60{symbol}\x60 is generated for both \x60{first}\x60 and \x60{second}\x60; " ++
      "give one of them a distinct name"
  | unknownHandler name => s!"Unknown handler \x60{name}\x60"
  | bundle path line reason => s!"Malformed bundle \x60{path}\x60 at line {line}: {reason}"

def isMissing : Failure → Bool
  | resourceMissing .. => true
  | _ => false

-- Whether the failure lies in what was handed in, and not in how segments are made.
def isRecoverable : Failure → Bool
  | encoding _ (.invalidConfig _) | encoding _ (.outOfBounds ..) | encoding _ (.invalidRange ..) =>
    false
  | _ => true

end Failure

end ResourceEmbedding
