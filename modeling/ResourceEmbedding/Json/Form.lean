import ResourceEmbedding.Json.Basic

namespace ResourceEmbedding

class JsonForm (α : Type) where
  toJson : α → Json
  ofJson? : Json → Option α

export JsonForm (toJson ofJson?)

namespace Json

def required? [JsonForm α] (j : Json) (name : String) : Option α :=
  (j.field? name).bind ofJson?

-- The value of a field that may be absent or null.
def optional? [JsonForm α] (j : Json) (name : String) : Option (Option α) :=
  match j.field? name with
  | none | some .null => some none
  | some x => (ofJson? x).map some

end Json

instance : JsonForm Bool where
  toJson := .bool
  ofJson?
    | .bool b => some b
    | _ => none

instance : JsonForm String where
  toJson := .string
  ofJson?
    | .string s => some s
    | _ => none

-- Sizes and indices fit 64 bits.
instance : JsonForm Nat where
  toJson n := .number n
  ofJson?
    | .number n => if 0 ≤ n && n < 0x10000000000000000 then some n.toNat else none
    | _ => none

instance : JsonForm UInt16 where
  toJson u := .number u.toNat
  ofJson?
    | .number n => if 0 ≤ n && n < 0x10000 then some n.toNat.toUInt16 else none
    | _ => none

instance [JsonForm α] : JsonForm (List α) where
  toJson xs := .array (xs.map toJson)
  ofJson?
    | .array xs => xs.mapM ofJson?
    | _ => none

instance [JsonForm α] : JsonForm (Option α) where
  toJson
    | some a => toJson a
    | none => .null
  ofJson?
    | .null => some none
    | j => (ofJson? j).map some

@[reducible] def JsonForm.ofNames (all : List α) (name : α → String) : JsonForm α where
  toJson a := .string (name a)
  ofJson?
    | .string s => all.find? (name · == s)
    | _ => none

end ResourceEmbedding
