import ResourceEmbedding.Decimal.Shortest
import ResourceEmbedding.KeyMap
import ResourceEmbedding.Segment.Source
import ResourceEmbedding.Setting.Basic
import ResourceEmbedding.Text.Utf8
import ResourceEmbedding.Toml.Document

namespace ResourceEmbedding

inductive SettingsFileError
  | stream (failure : StreamFailure)
  | notUtf8
  | malformed
  -- A value of this kind cannot be the value of a setting.
  | unusable (key kind : String)
deriving DecidableEq, Repr

namespace SettingsFile

def valueText? : Toml → Option String
  | .string s => some s
  | .integer n => some (toString n)
  | .boolean b => some (if b then "true" else "false")
  | .float x => some x.toText
  | .datetime _ | .array _ | .table _ => none

-- The entries of a table. A date or time passes for a table with its text as the only entry.
def tableEntries? : Toml → Option (List (String × Toml))
  | .table entries => some entries
  | .datetime d => some [("$__toml_private_datetime", .string d.toText)]
  | _ => none

def settingOf : String × Toml → Except SettingsFileError Setting
  | (key, value) =>
    match valueText? value with
    | some text => return ⟨key, text⟩
    | none => throw (.unusable key value.kind)

-- The entries of the options of a document, which has nothing beside them.
def options? (document : List (String × Toml)) : Option (List (String × Toml)) :=
  if document.any (·.1 != "options") then none
  else tableEntries? ((document.lookup "options").getD (.table []))

def settings (document : List (String × Toml)) : Except SettingsFileError (List Setting) := do
  let some entries := options? document | throw .malformed
  (KeyMap.ofList entries).entries.mapM settingOf

def read (text : String) : Except SettingsFileError (List Setting) := do
  let some document := Toml.read? text | throw .malformed
  settings document

def readSource (opening : Except StreamFailure Source) :
    Except SettingsFileError (List Setting) := do
  let bytes ← (opening.bind Source.readAll).mapError .stream
  match Utf8.decode bytes with
  | .ok text => read (.ofList text)
  | .error _ => throw .notUtf8

end SettingsFile

end ResourceEmbedding
