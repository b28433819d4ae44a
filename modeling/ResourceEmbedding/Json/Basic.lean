namespace ResourceEmbedding

inductive Json
  | null
  | bool (b : Bool)
  | number (n : Int)
  -- A number with a fraction or an exponent, as it is written.
  | decimal (text : String)
  | string (s : String)
  | array (items : List Json)
  | object (fields : List (String × Json))

namespace Json

instance : Inhabited Json := ⟨.null⟩

def fields? : Json → Option (List (String × Json))
  | object fields => some fields
  | _ => none

-- The field `name` of an object; of several the last.
def field? (j : Json) (name : String) : Option Json := do
  (← j.fields?).reverse.lookup name

end Json

end ResourceEmbedding
