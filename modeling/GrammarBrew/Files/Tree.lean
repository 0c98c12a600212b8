import GrammarBrew.Files.Fault
import GrammarBrew.Files.Path

/-!
A tree of files, directories and symbolic links, and the walk along a path. Every location holds at
most one entry. A walk follows links, up to a bound, and ends at an entry or at the one name that is
missing below a directory.
-/

set_option autoImplicit false
set_option relaxedAutoImplicit false

namespace GrammarBrew

/-- A moment of modification; only the order of moments counts. -/
abbrev Time := Int

abbrev Location := List Bytes

inductive Entry where
  | file (content : Bytes) (modified : Time)
  | directory (modified : Time)
  | link (target : Path)
  deriving DecidableEq, Repr

namespace Entry

def isDirectory : Entry → Bool
  | directory _ => true
  | _ => false

def isFile : Entry → Bool
  | file _ _ => true
  | _ => false

end Entry

/-- Entries by location; the root itself is always a directory. -/
structure FileTree where
  entries : List (Location × Entry)
  distinct : (entries.map Prod.fst).Nodup

namespace FileTree

def empty : FileTree := ⟨[], List.Pairwise.nil⟩

instance : Inhabited FileTree := ⟨empty⟩

def get? (tree : FileTree) (location : Location) : Option Entry :=
  if location.isEmpty then some (.directory 0) else tree.entries.lookup location

def isDirectory (tree : FileTree) (location : Location) : Bool :=
  (tree.get? location).any Entry.isDirectory

def others (tree : FileTree) (location : Location) : List (Location × Entry) :=
  tree.entries.filter fun entry => entry.1 != location

theorem distinct_others (tree : FileTree) (location : Location) :
    ((tree.others location).map Prod.fst).Nodup :=
  List.Sublist.nodup (List.Sublist.map _ List.filter_sublist) tree.distinct

/-- Put an entry at a location, in the place of what was there. -/
def set (tree : FileTree) (location : Location) (entry : Entry) : FileTree :=
  ⟨(location, entry) :: tree.others location, by
    refine List.nodup_cons.2 ⟨?_, tree.distinct_others location⟩
    simp [others]⟩

def erase (tree : FileTree) (location : Location) : FileTree :=
  ⟨tree.others location, tree.distinct_others location⟩

def regularFiles (tree : FileTree) (location : Location) : List Bytes :=
  tree.entries.filterMap fun entry =>
    if entry.2.isFile && entry.1.dropLast == location then entry.1.getLast? else none

inductive Place where
  | found (location : Location)
  | missing (parent : Location) (name : Bytes)
  deriving DecidableEq, Repr

inductive Aim where
  | itself
  | entry
  /-- A file to be written, which a name before a final slash is never. -/
  | file
  deriving DecidableEq, Repr

def longestName : Nat := 255

inductive Step where
  | to (location : Location)
  | through (target : Path)
  | ends (result : Except FileFault Place)

/-- The step from a location along a name that others follow; the empty name stays where it is, as
`.` does. -/
def step (tree : FileTree) (aim : Aim) (location : Location) (name : Bytes) (rest : List Bytes) :
    Step :=
  if !tree.isDirectory location then .ends (.error .notADirectory)
  else if name.isEmpty || name == [Path.dot] then .to location
  else if name = [Path.dot, Path.dot] then .to location.dropLast
  else if aim = .file ∧ rest = [[]] then .ends (.error .isADirectory)
  else if longestName < name.length then .ends (.error .nameTooLong)
  else match tree.get? (location ++ [name]) with
    | none => .ends (if rest.isEmpty then .ok (.missing location name) else .error .notFound)
    | some (.link target) =>
      if rest.isEmpty && aim == .itself then .to (location ++ [name]) else .through target
    | some _ => .to (location ++ [name])

/-- Walk along names from a location up to the first link, where `follow` goes on with its target
and the names that are left. -/
def walkUpTo (tree : FileTree) (aim : Aim)
    (follow : Location → Path → List Bytes → Except FileFault Place) :
    Location → List Bytes → Except FileFault Place
  | location, [] => .ok (.found location)
  | location, name :: rest =>
    match tree.step aim location name rest with
    | .to next => walkUpTo tree aim follow next rest
    | .through target => follow location target rest
    | .ends result => result

/-- Walk along names from a location. The number of links that may be followed is bounded. -/
def walk (tree : FileTree) (aim : Aim) : Nat → Location → List Bytes → Except FileFault Place
  | 0 => tree.walkUpTo aim fun _ _ _ => .error .tooManyLinks
  | links + 1 => tree.walkUpTo aim fun location target rest =>
    if target.isEmpty then .error .notFound
    else walk tree aim links (if target.isAbsolute then [] else location) (target.names ++ rest)

end FileTree

end GrammarBrew
