import ResourceEmbedding.KeyMap
import ResourceEmbedding.Properties.Entry
import ResourceEmbedding.Properties.Line
import ResourceEmbedding.Text.Quoted

namespace ResourceEmbedding.Properties

-- An escape by number that is malformed, on a logical line with the number of its first line.
structure Fault where
  line : Nat
  digits : String
deriving DecidableEq, Repr

def Fault.reason (f : Fault) : String :=
  s!"malformed \\u escape {Text.quoted f.digits}"

def readLine (line : LogicalLine) : Except Fault (String × String) := do
  let (key, value) := splitEntry line.text
  let read (raw : List Char) : Except Fault String :=
    match unescape raw with
    | .ok cs => .ok (.ofList cs)
    | .error digits => .error ⟨line.number, .ofList digits⟩
  return (← read key, ← read value)

def read (text : String) : Except Fault (KeyMap String) := do
  return .ofList (← (logicalLines text.toList).mapM readLine)

end ResourceEmbedding.Properties
