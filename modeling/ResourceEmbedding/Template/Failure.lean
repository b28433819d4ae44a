import ResourceEmbedding.Text.Quoted

namespace ResourceEmbedding

def largestIndex : Nat := 9999

inductive TemplateFault
  | unmatchedClose
  | unmatchedOpen
  | openQuote
  | missingIndex
  | malformedIndex (raw : String)
  | excessiveIndex (raw : String)
deriving DecidableEq, Repr

def TemplateFault.reason : TemplateFault → String
  | unmatchedClose => "unmatched '\x7d'"
  | unmatchedOpen => "unmatched '\x7b'"
  | openQuote => "unterminated quote inside placeholder"
  | missingIndex => "missing argument index"
  | malformedIndex raw => s!"argument index {Text.quoted raw} is not a non-negative integer"
  | excessiveIndex raw => s!"argument index {raw} exceeds {largestIndex}"

structure TemplateError where
  template : String
  -- The offset of the fault in bytes.
  offset : Nat
  fault : TemplateFault
deriving DecidableEq, Repr

def TemplateError.message (e : TemplateError) : String :=
  s!"invalid message template {Text.quoted e.template} at offset {e.offset}: {e.fault.reason}"

end ResourceEmbedding
