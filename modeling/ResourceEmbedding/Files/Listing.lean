import ResourceEmbedding.Files.Ignore

namespace ResourceEmbedding

inductive Listing
  | file
  | directory (rules : IgnoreRules) (entries : List (String × Listing))

namespace Listing

def isDirectory : Listing → Bool
  | file => false
  | directory .. => true

mutual

-- The paths, as lists of names, of the files that a search finds; `levels` are the directories
-- above and `path` leads to the listing.
def files (levels : List Level) (path : List String) : Listing → List (List String)
  | file => [path]
  | directory rules entries => filesOfEntries (⟨rules, []⟩ :: levels) path entries

def filesOfEntries (levels : List Level) (path : List String) :
    List (String × Listing) → List (List String)
  | [] => []
  | (name, entry) :: rest =>
    let below := levels.map (.down name)
    let found :=
      if Level.isSkipped below entry.isDirectory name then []
      else files below (path ++ [name]) entry
    found ++ filesOfEntries levels path rest

end

end Listing

structure Survey where
  above : List Level
  root : Listing

-- The sorted paths of the files that a search of the root finds and that one of some globs matches,
-- if there are any globs.
def Survey.select (s : Survey) (globs : List Glob) : List String :=
  let paths := (s.root.files s.above []).map Level.join
  let isSelected (path : String) : Bool := globs.isEmpty || globs.any (·.isMatch path)
  (paths.filter isSelected).mergeSort fun p q => decide (p ≤ q)

end ResourceEmbedding
