import ResourceEmbedding.Text.Blank
import ResourceEmbedding.Text.Lines

namespace ResourceEmbedding.Properties

-- Whether a line ends in an odd number of backslashes.
def continues (line : List Char) : Bool :=
  (line.reverse.takeWhile (· == '\\')).length % 2 == 1

-- Whether a line holds no entry: nothing is on it, or a comment.
def isIgnored : List Char → Bool
  | [] => true
  | c :: _ => c == '#' || c == '!'

-- One line or several lines joined, with the number of the first.
structure LogicalLine where
  number : Nat
  text : List Char
deriving DecidableEq, Repr

-- The logical lines of the lines from the one numbered `number` on; `unfinished` is the logical
-- line that it continues. White space that opens a continued line is left out.
def logicalLinesFrom (number : Nat) (unfinished : Option LogicalLine) :
    List (List Char) → List LogicalLine
  | [] => unfinished.toList
  | line :: rest =>
    let line := Text.trimStart line
    if unfinished.isNone && isIgnored line then logicalLinesFrom (number + 1) none rest
    else
      let begun := unfinished.getD ⟨number, []⟩
      if continues line then
        logicalLinesFrom (number + 1) (some { begun with text := begun.text ++ line.dropLast }) rest
      else { begun with text := begun.text ++ line } :: logicalLinesFrom (number + 1) none rest

def logicalLines (text : List Char) : List LogicalLine :=
  logicalLinesFrom 1 none (Text.lines text)

end ResourceEmbedding.Properties
