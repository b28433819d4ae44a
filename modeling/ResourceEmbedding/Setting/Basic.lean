import ResourceEmbedding.Json.Form
import ResourceEmbedding.Text.Integer

namespace ResourceEmbedding

structure Setting where
  key : String
  value : String
deriving DecidableEq, Repr

namespace Setting

-- The setting written as `key=value`, with white space around both left out. The value may hold
-- more equals signs; the key may not be blank.
def read? (text : String) : Option Setting :=
  let cs := text.toList
  match Text.trim (cs.takeWhile (· != '=')), cs.dropWhile (· != '=') with
  | [], _ | _, [] => none
  | key, _ :: value => some ⟨.ofList key, .ofList (Text.trim value)⟩

def toText (s : Setting) : String :=
  s!"{s.key}={s.value}"

instance : JsonForm Setting where
  toJson s := .object [("key", toJson s.key), ("value", toJson s.value)]
  ofJson? j := do
    return ⟨← j.required? "key", ← j.required? "value"⟩

end Setting

def readBool? (value : String) : Option Bool :=
  match Text.keyword value with
  | "true" => some true
  | "false" => some false
  | _ => none

namespace Settings

def find? (settings : List Setting) (key : String) : Option String :=
  (settings.find? (·.key == key)).map (·.value)

def getBool (settings : List Setting) (key : String) (fallback : Bool) : Bool :=
  ((find? settings key).bind readBool?).getD fallback

-- The value of `key`, read by `read?` without the white space around it.
def get? (settings : List Setting) (key : String) (read? : String → Option α) : Option α :=
  (find? settings key).bind fun value => read? (Text.trimmed value)

def getSize (settings : List Setting) (key : String) (fallback : Nat) : Nat :=
  (get? settings key Text.size?).getD fallback

end Settings

end ResourceEmbedding
