import ResourceEmbedding.Files.Listing
import ResourceEmbedding.Segment.Source

namespace ResourceEmbedding

namespace StreamFailure

def noSuchFile : StreamFailure :=
  ⟨.notFound, "No such file or directory (os error 2)"⟩

def noPermission : StreamFailure :=
  ⟨.permissionDenied, "Permission denied (os error 13)"⟩

def notADirectory : StreamFailure :=
  ⟨.notADirectory, "Not a directory (os error 20)"⟩

def isADirectory : StreamFailure :=
  ⟨.isDirectory, "Is a directory (os error 21)"⟩

end StreamFailure

structure FileSystem (m : Type → Type) where
  openFile : String → m (Except StreamFailure Source)
  writeFile : String → String → m (Except StreamFailure Unit)
  -- A directory with all that is below it; nothing where there is no directory.
  survey : String → m (Option Survey)

-- A path from a directory; an absolute path leads away from it.
def joinPath (directory path : String) : String :=
  if path.startsWith "/" then path
  else if directory.isEmpty || directory.endsWith "/" then directory ++ path
  else directory ++ "/" ++ path

end ResourceEmbedding
