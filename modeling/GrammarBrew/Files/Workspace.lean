import GrammarBrew.Files.Tree

/-!
A working directory in a tree of files, with a clock. Every change is stamped with a moment of its
own, so that a later change is never as old as an earlier one.
-/

set_option autoImplicit false
set_option relaxedAutoImplicit false

namespace GrammarBrew

/-- A tree of files seen from a directory, at a moment. -/
structure Workspace where
  tree : FileTree
  here : Location
  clock : Time

namespace Workspace

def start (name : Bytes) (clock : Time) : Workspace :=
  ⟨FileTree.empty.set [name] (.directory clock), [name], clock⟩

def linkLimit : Nat := 40

def pathLimit : Nat := 4096

/-- Walk along names from the root or the working directory. -/
def walkFrom (workspace : Workspace) (aim : FileTree.Aim) (path : Path) (names : List Bytes) :
    Except FileFault FileTree.Place :=
  if path.contains 0 then .error .holdsNul
  else if path.isEmpty then .error .notFound
  else if pathLimit ≤ path.length then .error .nameTooLong
  else workspace.tree.walk aim linkLimit (if path.isAbsolute then [] else workspace.here) names

def locate (workspace : Workspace) (aim : FileTree.Aim) (path : Path) :
    Except FileFault FileTree.Place :=
  workspace.walkFrom aim path path.names

def entry (workspace : Workspace) (path : Path) : Except FileFault Entry :=
  match workspace.locate .entry path with
  | .error fault => .error fault
  | .ok (.missing _ _) => .error .notFound
  | .ok (.found location) =>
    match workspace.tree.get? location with
    | some entry => .ok entry
    | none => .error .notFound

def modified (workspace : Workspace) (path : Path) : Except FileFault Time :=
  match workspace.entry path with
  | .error fault => .error fault
  | .ok (.file _ time) => .ok time
  | .ok (.directory time) => .ok time
  | .ok (.link _) => .error .notFound

def read (workspace : Workspace) (path : Path) : Except FileFault Bytes :=
  match workspace.entry path with
  | .error fault => .error fault
  | .ok (.file content _) => .ok content
  | .ok (.directory _) => .error .isADirectory
  | .ok (.link _) => .error .notFound

def isRegular (workspace : Workspace) (path : Path) : Bool :=
  match workspace.entry path with
  | .ok entry => entry.isFile
  | .error _ => false

def isDirectory (workspace : Workspace) (path : Path) : Bool :=
  match workspace.entry path with
  | .ok entry => entry.isDirectory
  | .error _ => false

/-- The names of the regular files in the directory that a path leads to. -/
def regularFiles (workspace : Workspace) (path : Path) : Except FileFault (List Bytes) :=
  match workspace.locate .entry path with
  | .error fault => .error fault
  | .ok (.missing _ _) => .error .notFound
  | .ok (.found location) =>
    if workspace.tree.isDirectory location then .ok (workspace.tree.regularFiles location)
    else .error .notADirectory

/-- Put a new entry below a directory, which is modified by it. -/
def add (workspace : Workspace) (parent : Location) (name : Bytes) (entry : Entry) : Workspace :=
  let tree := workspace.tree.set (parent ++ [name]) entry
  let touched := if parent.isEmpty then tree else tree.set parent (.directory workspace.clock)
  { workspace with tree := touched, clock := workspace.clock + 1 }

/-- Replace the content of a file, or create it in a directory that is there. -/
def write (workspace : Workspace) (path : Path) (content : Bytes) :
    Except FileFault Unit × Workspace :=
  match workspace.locate .file path with
  | .error fault => (.error fault, workspace)
  | .ok (.missing parent name) =>
    (.ok (), workspace.add parent name (.file content workspace.clock))
  | .ok (.found location) =>
    if workspace.tree.isDirectory location then (.error .isADirectory, workspace)
    else (.ok (), { workspace with
      tree := workspace.tree.set location (.file content workspace.clock)
      clock := workspace.clock + 1 })

def makeDirectory (workspace : Workspace) (path : Path) : Except FileFault Unit × Workspace :=
  let names := if path.getLast? == some Path.slash then path.names.dropLast else path.names
  match workspace.walkFrom .itself path names with
  | .error fault => (.error fault, workspace)
  | .ok (.found _) => (.error .alreadyExists, workspace)
  | .ok (.missing parent name) =>
    (.ok (), workspace.add parent name (.directory workspace.clock))

def setModified (workspace : Workspace) (path : Path) (time : Time) :
    Except FileFault Unit × Workspace :=
  match workspace.locate .entry path with
  | .error fault => (.error fault, workspace)
  | .ok (.missing _ _) => (.error .notFound, workspace)
  | .ok (.found location) =>
    match workspace.tree.get? location with
    | some (.file content _) =>
      (.ok (), { workspace with tree := workspace.tree.set location (.file content time) })
    | some (.directory _) => (.error .isADirectory, workspace)
    | _ => (.error .notFound, workspace)

def remove (workspace : Workspace) (path : Path) : Except FileFault Unit × Workspace :=
  match workspace.locate .itself path with
  | .error fault => (.error fault, workspace)
  | .ok (.missing _ _) => (.error .notFound, workspace)
  | .ok (.found location) =>
    if workspace.tree.isDirectory location then (.error .isADirectory, workspace)
    else
      let tree := workspace.tree.erase location
      let parent := location.dropLast
      let touched := if parent.isEmpty then tree else tree.set parent (.directory workspace.clock)
      (.ok (), { workspace with tree := touched, clock := workspace.clock + 1 })

def link (workspace : Workspace) (target path : Path) : Except FileFault Unit × Workspace :=
  match workspace.locate .itself path with
  | .error fault => (.error fault, workspace)
  | .ok (.found _) => (.error .alreadyExists, workspace)
  | .ok (.missing parent name) => (.ok (), workspace.add parent name (.link target))

end Workspace

end GrammarBrew
