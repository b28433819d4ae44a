import ResourceEmbedding.Text.Utf16

namespace ResourceEmbedding

def total (size : α → Nat) (xs : List α) : Nat :=
  xs.foldr (fun x n => size x + n) 0

def unitCost (u : UInt16) : Nat :=
  if u = 0 then 2
  else if u < 0x80 then 1
  else if u < 0x800 then 2
  else 3

def unitsCost (units : List UInt16) : Nat :=
  total unitCost units

def textCost (s : String) : Nat :=
  unitsCost (Utf16.ofString s)

end ResourceEmbedding
