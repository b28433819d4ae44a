namespace ResourceEmbedding.Text

-- The parts between the members that satisfy `p`; there is one part more than there are such
-- members.
def splitAt (p : α → Bool) : List α → List (List α)
  | [] => [[]]
  | a :: rest =>
    if p a then [] :: splitAt p rest
    else match splitAt p rest with
      | [] => [[a]]
      | part :: parts => (a :: part) :: parts

def afterLast (p : α → Bool) (as : List α) : List α :=
  (as.reverse.takeWhile (!p ·)).reverse

def throughLast (p : α → Bool) (as : List α) : List α :=
  (as.reverse.dropWhile (!p ·)).reverse

-- What stands before `ending`, if `as` ends in it.
def beforeEnding? [BEq α] (ending as : List α) : Option (List α) :=
  if ending.isSuffixOf as then some (as.take (as.length - ending.length)) else none

end ResourceEmbedding.Text
