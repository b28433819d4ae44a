namespace ResourceEmbedding.Text

def decimalValue (digits : List Char) : Nat :=
  digits.foldl (fun n c => n * 10 + (c.toNat - 0x30)) 0

def digits? (cs : List Char) : Option Nat :=
  if cs.isEmpty || !cs.all Char.isDigit then none else some (decimalValue cs)

def hexValue? (c : Char) : Option Nat :=
  if c.isDigit then some (c.toNat - 0x30)
  else if 'a' ≤ c && c ≤ 'f' then some (c.toNat - 0x57)
  else if 'A' ≤ c && c ≤ 'F' then some (c.toNat - 0x37)
  else none

-- The number of hexadecimal digits that stand behind those of `n`.
def hexFrom? (n : Nat) : List Char → Option Nat
  | [] => some n
  | c :: rest => (hexValue? c).bind fun d => hexFrom? (n * 16 + d) rest

-- The number that hexadecimal digits stand for; no digits stand for zero.
def hex? (digits : List Char) : Option Nat :=
  hexFrom? 0 digits

def hexDigits (n : Nat) : List Char :=
  Nat.toDigits 16 n

end ResourceEmbedding.Text
