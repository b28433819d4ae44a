import ResourceEmbedding.Setting.Check
import ResourceEmbedding.Setting.Failure

namespace ResourceEmbedding

structure Declaration where
  key : String
  description : String
  check : ValueCheck

-- The declaration without its check, which has no text.
def Declaration.describe (d : Declaration) : String :=
  s!"OptionDef \x7b key: {Text.quoted d.key}, description: {Text.quoted d.description}, .. \x7d"

structure Schema where
  handler : String
  declarations : List Declaration
  checked : Bool

namespace Schema

def find? (schema : Schema) (key : String) : Option Declaration :=
  schema.declarations.find? (·.key == key)

def declare (schema : Schema) (d : Declaration) : Except SettingError Schema :=
  if (schema.find? d.key).isSome then .error (.duplicateDeclaration schema.handler d.key)
  else .ok { schema with declarations := schema.declarations ++ [d] }

def ofDeclarations (handler : String) (declarations : List Declaration) :
    Except SettingError Schema :=
  declarations.foldlM declare ⟨handler, [], true⟩

def unchecked (handler : String) : Schema :=
  ⟨handler, [], false⟩

def extend (schema other : Schema) : Except SettingError Schema :=
  other.declarations.foldlM declare schema

-- What the validation has met so far: keys that are not declared, declared keys, and declared keys
-- met more than once.
structure Seen where
  unknown : List String := []
  declared : List String := []
  repeated : List String := []
deriving DecidableEq, Repr

-- What is wrong with one setting after those in `seen`. An undeclared key and a repeated key are
-- told once, a value that is not accepted each time.
def judge (schema : Schema) (seen : Seen) (s : Setting) : List Violation × Seen :=
  match schema.find? s.key with
  | none =>
    if s.key ∈ seen.unknown then ([], seen)
    else ([.unknown s.key], { seen with unknown := s.key :: seen.unknown })
  | some d =>
    let invalid := if d.check.accepts s.value then [] else [.invalid s.key s.value]
    if s.key ∉ seen.declared then
      (invalid, { seen with declared := s.key :: seen.declared })
    else if s.key ∉ seen.repeated then
      (.duplicate s.key :: invalid, { seen with repeated := s.key :: seen.repeated })
    else (invalid, seen)

def violationsFrom (schema : Schema) (seen : Seen) : List Setting → List Violation
  | [] => []
  | s :: rest =>
    let (violations, seen) := schema.judge seen s
    violations ++ schema.violationsFrom seen rest

def violations (schema : Schema) (settings : List Setting) : List Violation :=
  if schema.checked then schema.violationsFrom {} settings else []

def entries (schema : Schema) : List (String × String) :=
  schema.declarations.map fun d => (d.key, d.description)

def validate (schema : Schema) (settings : List Setting) : Except Rejection Unit :=
  match schema.violations settings with
  | [] => .ok ()
  | violations => .error ⟨schema.handler, violations, schema.entries⟩

def check (schema : Schema) (settings : List Setting) : Except SettingError Unit :=
  (schema.validate settings).mapError .rejected

def usage (schema : Schema) : String :=
  if schema.checked then usageText schema.entries
  else "usage: any options are accepted unchecked"

end Schema

end ResourceEmbedding
