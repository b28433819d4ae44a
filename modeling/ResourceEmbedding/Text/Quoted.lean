import ResourceEmbedding.Text.Casing
import ResourceEmbedding.Text.Digits
import ResourceEmbedding.Text.QuotedTable

namespace ResourceEmbedding.Text

-- A combining mark, or a character that is no letter, mark, number, sign or plain space.
def isUnprintable (c : Char) : Bool :=
  if isAscii c then c.toNat < 0x20 || c.toNat == 0x7F
  else Run.anyContains QuotedTable.extending c.toNat ||
    Run.anyContains QuotedTable.unprintable c.toNat

def quoteChar (c : Char) : List Char :=
  match c with
  | '"' => ['\\', '"']
  | '\\' => ['\\', '\\']
  | '\t' => ['\\', 't']
  | '\r' => ['\\', 'r']
  | '\n' => ['\\', 'n']
  | '\x00' => ['\\', '0']
  | c => if isUnprintable c then ['\\', 'u', '\x7b'] ++ hexDigits c.toNat ++ ['\x7d'] else [c]

def quoted (s : String) : String :=
  .ofList ('"' :: s.toList.flatMap quoteChar ++ ['"'])

end ResourceEmbedding.Text
