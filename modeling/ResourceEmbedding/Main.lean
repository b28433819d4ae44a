import ResourceEmbedding.CommandLine.Run
import ResourceEmbedding.Text.Split

namespace ResourceEmbedding.Disk

def failureOf : IO.Error → StreamFailure
  | .noFileOrDirectory .. => .noSuchFile
  | .permissionDenied .. => .noPermission
  | .inappropriateType _ code details =>
    if code = 20 then .notADirectory
    else if code = 21 then .isADirectory
    else ⟨.other, s!"{details} (os error {code})"⟩
  | .interrupted _ _ details => ⟨.interrupted, details⟩
  | e => ⟨.other, toString e⟩

def attempt (action : IO α) : IO (Except StreamFailure α) := do
  match ← action.toBaseIO with
  | .ok a => return .ok a
  | .error e => return .error (failureOf e)

-- A directory can be opened, but not read.
def openFile (path : String) : IO (Except StreamFailure Source) := do
  match ← attempt (IO.FS.readBinFile path) with
  | .ok content => return .ok (.ofBytes content.toList)
  | .error failure =>
    if failure.kind = .isDirectory then return .ok [.failed failure] else return .error failure

def writeFile (path content : String) : IO (Except StreamFailure Unit) :=
  attempt (IO.FS.writeFile path content)

def rulesIn (directory : String) : IO IgnoreRules := do
  let read (name : String) : IO (List IgnoreRule) := do
    match ← attempt (IO.FS.readBinFile (joinPath directory name)) with
    | .ok content => return IgnoreRule.readAll content.toList
    | .error _ => return []
  let repository ← attempt (IO.FS.realPath (joinPath directory ".git"))
  let isRepository ← match repository with
    | .ok path => path.pathExists
    | .error _ => pure false
  return ⟨← read ".ignore", ← read ".gitignore", ← read ".git/info/exclude", isRepository⟩

-- A directory with all that is below it. Symbolic links are not followed, and what cannot be read
-- is left out.
partial def listing (directory : String) : IO Listing := do
  let entries ← match ← attempt (do (← IO.FS.realPath directory).readDir) with
    | .ok entries => pure entries.toList
    | .error _ => pure []
  let found ← entries.filterMapM fun entry => do
    match ← attempt entry.path.symlinkMetadata with
    | .error _ => return none
    | .ok metadata =>
      match metadata.type with
      | .file => return some (entry.fileName, Listing.file)
      | .dir => return some (entry.fileName, ← listing (joinPath directory entry.fileName))
      | .symlink | .other => return none
  return .directory (← rulesIn directory) found

def survey (path : String) : IO (Option Survey) := do
  let .ok root ← attempt (IO.FS.realPath path) | return none
  unless ← root.isDir do return none
  let names := ((Text.splitAt (· == '/') root.toString.toList).map String.ofList).filter (· != "")
  let above ← (List.range names.length).reverse.mapM fun count => do
    return ⟨← rulesIn ("/" ++ Level.join (names.take count)), names.drop count⟩
  return some ⟨above, ← listing path⟩

def fileSystem : FileSystem IO :=
  ⟨openFile, writeFile, survey⟩

end ResourceEmbedding.Disk

def main (arguments : List String) : IO UInt32 := do
  let response ← ResourceEmbedding.CommandLine.run ResourceEmbedding.Disk.fileSystem arguments
  (← IO.getStdout).putStr response.output
  (← IO.getStderr).putStr response.errors
  return response.exitCode.toUInt32
