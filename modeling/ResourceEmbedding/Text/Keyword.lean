import ResourceEmbedding.Text.Blank

namespace ResourceEmbedding

structure UnknownKeyword where
  noun : String
  word : String
deriving DecidableEq, Repr

def UnknownKeyword.message (e : UnknownKeyword) : String :=
  s!"unknown {e.noun}: {e.word}"

-- The member of `all` whose name is the keyword `s`.
def readKeyword (noun : String) (all : List α) (name : α → String) (s : String) :
    Except UnknownKeyword α :=
  let word := Text.keyword s
  match all.find? (name · == word) with
  | some a => .ok a
  | none => .error ⟨noun, word⟩

end ResourceEmbedding
