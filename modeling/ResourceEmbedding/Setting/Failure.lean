import ResourceEmbedding.Text.Quoted

namespace ResourceEmbedding

-- Pads `key` to `width`, counted in characters.
def padKey (width : Nat) (key : String) : String :=
  key ++ .ofList (List.replicate (width - key.length) ' ')

-- The usage text for keys and their descriptions. The column of keys is as wide as the longest key
-- is in bytes.
def usageText (entries : List (String × String)) : String :=
  if entries.isEmpty then "usage: no options are accepted"
  else
    let width := (entries.map (·.1.utf8ByteSize)).foldl max 0
    "usage:" ++ String.join (entries.map fun (key, description) =>
      s!"\n  {padKey width key}  {description}")

inductive Violation
  | unknown (key : String)
  | duplicate (key : String)
  | invalid (key value : String)
deriving DecidableEq, Repr

namespace Violation

def key : Violation → String
  | unknown key | duplicate key | invalid key _ => key

def message : Violation → String
  | unknown key => s!"unknown option \x60{key}\x60"
  | duplicate key => s!"duplicate option \x60{key}\x60"
  | invalid key value => s!"invalid value {Text.quoted value} for option \x60{key}\x60"

end Violation

structure Rejection where
  handler : String
  violations : List Violation
  usage : List (String × String)
deriving DecidableEq, Repr

def Rejection.message (r : Rejection) : String :=
  s!"invalid options for \x60{r.handler}\x60:\n" ++
    String.join (r.violations.map fun v => s!"  - {v.message}\n") ++ usageText r.usage

inductive SettingError
  | duplicateDeclaration (handler key : String)
  | rejected (rejection : Rejection)
  | malformed (text : String)
deriving DecidableEq, Repr

def SettingError.message : SettingError → String
  | duplicateDeclaration handler key =>
    s!"Option \x60{key}\x60 is declared more than once for handler \x60{handler}\x60"
  | rejected rejection => rejection.message
  | malformed text => s!"Malformed option {Text.quoted text}: expected key=value"

end ResourceEmbedding
