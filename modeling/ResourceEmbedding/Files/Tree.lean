import ResourceEmbedding.Files.System
import ResourceEmbedding.Text.Split

namespace ResourceEmbedding

inductive FileTree
  | file (content : List UInt8)
  | directory (entries : List (String × FileTree))

namespace FileTree

def empty : FileTree :=
  directory []

instance : Inhabited FileTree := ⟨empty⟩

def get? (tree : FileTree) : List String → Option FileTree
  | [] => some tree
  | name :: path =>
    match tree with
    | file _ => none
    | directory entries => (entries.lookup name).bind (get? · path)

def putEntry (name : String) (tree : FileTree) : List (String × FileTree) → List (String × FileTree)
  | [] => [(name, tree)]
  | (n, t) :: rest => if n = name then (n, tree) :: rest else (n, t) :: putEntry name tree rest

-- Puts a tree at a path of names. Directories that are missing on the way are made.
def put : FileTree → List String → FileTree → FileTree
  | _, [], node => node
  | tree, name :: path, node =>
    let entries := match tree with
      | file _ => []
      | directory entries => entries
    directory (putEntry name (put ((entries.lookup name).getD empty) path node) entries)

def partsOf (path : String) : List String :=
  (Text.splitAt (· == '/') path.toList).map .ofList

-- Follows the parts of a path, from the directory that the names of `done`, last first, lead to. A
-- part that is empty or a dot stays where it is, and two dots lead back; both need a directory.
def follow (tree : FileTree) (done : List String) : List String → Except StreamFailure (List String)
  | [] => .ok done.reverse
  | part :: parts =>
    match tree.get? done.reverse with
    | some (directory entries) =>
      if part = "" ∨ part = "." then follow tree done parts
      else if part = ".." then
        match done with
        | [] => .error .noSuchFile
        | _ :: done => follow tree done parts
      else if (entries.lookup part).isSome then follow tree (part :: done) parts
      else .error .noSuchFile
    | some (file _) => .error .notADirectory
    | none => .error .noSuchFile

-- The names that a path leads to. An absolute path starts at the top of the tree like any other,
-- and nothing is known of what lies outside.
def resolve (tree : FileTree) (path : String) : Except StreamFailure (List String) :=
  if path.isEmpty then .error .noSuchFile else follow tree [] (partsOf path)

def openFile (tree : FileTree) (path : String) : Except StreamFailure Source := do
  match tree.get? (← tree.resolve path) with
  | some (file content) => return .ofBytes content
  | some (directory _) => return [.failed .isADirectory]
  | none => throw .noSuchFile

def writeFile (tree : FileTree) (path content : String) : Except StreamFailure FileTree := do
  if path.isEmpty then throw .noSuchFile
  let parts := partsOf path
  let names := (parts.reverse.dropWhile (· == "")).reverse
  let some name := names.getLast? | throw .isADirectory
  -- The empty part at the end asks for a directory.
  let parent ← tree.follow [] (names.dropLast ++ [""])
  if names.length < parts.length || name == "." || name == ".." then throw .isADirectory
  let target := parent ++ [name]
  match tree.get? target with
  | some (directory _) => throw .isADirectory
  | _ => return tree.put target (file (Utf8.encode content))

def rulesOf (entries : List (String × FileTree)) : IgnoreRules :=
  let read (path : List String) : List IgnoreRule :=
    match (directory entries).get? path with
    | some (file content) => IgnoreRule.readAll content
    | _ => []
  ⟨read [".ignore"], read [".gitignore"], read [".git", "info", "exclude"],
    (entries.lookup ".git").isSome⟩

mutual

def listing : FileTree → Listing
  | file _ => .file
  | directory entries => .directory (rulesOf entries) (listingOfEntries entries)

def listingOfEntries : List (String × FileTree) → List (String × Listing)
  | [] => []
  | (name, tree) :: rest => (name, tree.listing) :: listingOfEntries rest

end

def rulesAt (tree : FileTree) (names : List String) : IgnoreRules :=
  match tree.get? names with
  | some (directory entries) => rulesOf entries
  | _ => {}

def survey (tree : FileTree) (path : String) : Option Survey := do
  let names ← (tree.resolve path).toOption
  match ← tree.get? names with
  | file _ => none
  | root =>
    let above := (List.range names.length).reverse.map fun count =>
      ⟨tree.rulesAt (names.take count), names.drop count⟩
    return ⟨above, root.listing⟩

def fileSystem : FileSystem (StateM FileTree) where
  openFile path := do return (← get).openFile path
  writeFile path content := do
    match (← get).writeFile path content with
    | .ok tree => set tree; return .ok ()
    | .error failure => return .error failure
  survey path := do return (← get).survey path

end FileTree

end ResourceEmbedding
