import ResourceEmbedding.Setting.Basic

namespace ResourceEmbedding

inductive ValueCheck
  | any
  | nonBlank
  | boolean
  | sizeAtLeast (least : Nat)
  | oneOf (choices : List String)
  -- A test that a host brings along.
  | satisfying (test : String → Bool)

namespace ValueCheck

-- Whether a value passes. White space around the value is ignored, and so is the case of ASCII
-- letters in booleans and choices.
def accepts : ValueCheck → String → Bool
  | any, _ => true
  | nonBlank, value => !(Text.trim value.toList).isEmpty
  | boolean, value => (readBool? value).isSome
  | sizeAtLeast least, value => (Text.size? (Text.trimmed value)).any (least ≤ ·)
  | oneOf choices, value => choices.any fun c => Text.asciiLower c == Text.keyword value
  | satisfying test, value => test value

def size : ValueCheck :=
  sizeAtLeast 0

end ValueCheck

end ResourceEmbedding
