import GrammarBrew.Files.Fault
import GrammarBrew.Files.Path
import GrammarBrew.Files.Tree

/-!
The file operations that brewing needs, whatever carries them out. Paths are followed through
symbolic links everywhere.
-/

set_option autoImplicit false
set_option relaxedAutoImplicit false

namespace GrammarBrew

class FileAccess (m : Type → Type) where
  /-- The names of the regular files in a directory; links and directories do not count. -/
  regularFiles : Path → m (Except FileFault (List Bytes))
  modified : Path → m (Except FileFault Time)
  isRegular : Path → m Bool
  read : Path → m (Except FileFault Bytes)
  isDirectory : Path → m Bool
  makeDirectory : Path → m (Except FileFault Unit)
  write : Path → Bytes → m (Except FileFault Unit)

/-- Where errors may end a run, the operations are those of the run itself. -/
instance {ε : Type} {m : Type → Type} [Monad m] [FileAccess m] : FileAccess (ExceptT ε m) where
  regularFiles path := ExceptT.lift (FileAccess.regularFiles path)
  modified path := ExceptT.lift (FileAccess.modified path)
  isRegular path := ExceptT.lift (FileAccess.isRegular path)
  read path := ExceptT.lift (FileAccess.read path)
  isDirectory path := ExceptT.lift (FileAccess.isDirectory path)
  makeDirectory path := ExceptT.lift (FileAccess.makeDirectory path)
  write path content := ExceptT.lift (FileAccess.write path content)

namespace FileAccess

variable {m : Type → Type} [Monad m] [FileAccess m]

def readText (path : Path) : m (Except FileFault Text) := do
  match ← read path with
  | .error fault => return .error fault
  | .ok bytes =>
    match Text.decode? bytes with
    | some text => return .ok text
    | none => return .error .notText

/-- Count a directory that could not be made as made if it is there. -/
def unlessDirectory (path : Path) (fault : FileFault) : m (Except FileFault Unit) := do
  if ← isDirectory path then return .ok () else return .error fault

/-- Make the first of some paths, each of which lies in the next, after those it lies in. -/
def makeFirst : List Path → m (Except FileFault Unit)
  | [] => return .error .noDirectoryMade
  | path :: parents => do
    if path.isEmpty then return .ok ()
    match ← makeDirectory path with
    | .ok () => return .ok ()
    | .error .notFound =>
      match ← makeFirst parents with
      | .error fault => return .error fault
      | .ok () =>
        match ← makeDirectory path with
        | .ok () => return .ok ()
        | .error fault => unlessDirectory path fault
    | .error fault => unlessDirectory path fault

/-- Make a directory and those it lies in, as far as they are missing. -/
def makeDirectories (path : Path) : m (Except FileFault Unit) := makeFirst path.ancestors

end FileAccess

end GrammarBrew
