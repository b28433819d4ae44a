import ResourceEmbedding.Template.Analysis

namespace ResourceEmbedding.Message

-- The kind of an argument that is `a` in one template and `b` in another. A typed argument beats a
-- text; a number and a date exclude each other.
def joinKind? (a b : ArgumentKind) : Option ArgumentKind :=
  if a = b || b = .text then some a
  else if a = .text then some b
  else none

-- Joins two lists of kinds from the index `index` on, or gives the first index at which they
-- exclude each other.
def joinFrom (index : Nat) : List ArgumentKind → List ArgumentKind → Except Nat (List ArgumentKind)
  | [], bs => .ok bs
  | as, [] => .ok as
  | a :: as, b :: bs =>
    match joinKind? a b with
    | none => .error index
    | some kind => (joinFrom (index + 1) as bs).map (kind :: ·)

def joinShapes (shapes : List Shape) : Except Nat (List ArgumentKind) :=
  shapes.foldlM (fun kinds shape => joinFrom 0 kinds shape.arguments) []

end ResourceEmbedding.Message
