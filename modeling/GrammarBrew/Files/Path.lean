import GrammarBrew.Text.Utf8

/-!
Paths: bytes in which a slash separates names. A path that begins with a slash is absolute. Repeated
slashes and the name `.` after the first place add nothing.
-/

set_option autoImplicit false
set_option relaxedAutoImplicit false

namespace GrammarBrew

abbrev Path := Bytes

namespace Path

def slash : UInt8 := 0x2f

def dot : UInt8 := 0x2e

def ofText (text : Text) : Path := Text.encode text

def display (path : Path) : Text := Text.decodeLossy path

def isAbsolute (path : Path) : Bool := path.head? == some slash

/-- The name of a directory, then a slash unless it ends in one, then a name within it. -/
def join (directory name : Path) : Path :=
  if directory.isEmpty || directory.getLast? == some slash then directory ++ name
  else directory ++ slash :: name

def segments (path : Path) : List Bytes :=
  path.foldr (fun b parts =>
    if b = slash then [] :: parts
    else match parts with
      | [] => [[b]]
      | part :: others => (b :: part) :: others) [[]]

/-- The names along a path. A final slash, which asks for a directory, gives an empty name. -/
def names (path : Path) : List Bytes :=
  let named := path.segments.filter fun segment => !segment.isEmpty
  if path.getLast? == some slash then named ++ [[]] else named

/-- What a path begins with that is no name of its own: the root, or `.` in the first place. -/
def anchor (path : Path) : Path :=
  match path with
  | [] => []
  | first :: rest =>
    if first = slash then [slash]
    else if first = dot ∧ (rest.isEmpty ∨ rest.head? = some slash) then [dot]
    else []

/-- The end of a path, given backwards, without the slashes and `.` that add nothing. -/
def dropTail : Bytes → Bytes
  | [] => []
  | b :: rest =>
    if b = slash then dropTail rest
    else if b = dot ∧ (rest.isEmpty ∨ rest.head? = some slash) then dropTail rest
    else b :: rest

/-- The names after the anchor, backwards, from the last one on. -/
def backwards (path : Path) : Bytes := dropTail (path.drop path.anchor.length).reverse

/-- The path without its last name; the root and the empty path have none. -/
def parent? (path : Path) : Option Path :=
  let back := path.backwards
  if back.isEmpty then if path.anchor = [dot] then some [] else none
  else some (path.anchor ++ (dropTail (back.dropWhile fun b => b != slash)).reverse)

/-- A path and those it lies in, the longest first; the bound is the length of the path. -/
def ancestorsUpTo : Nat → Path → List Path
  | 0, path => [path]
  | bound + 1, path =>
    match path.parent? with
    | none => [path]
    | some parent => path :: ancestorsUpTo bound parent

def ancestors (path : Path) : List Path := ancestorsUpTo path.length path

/-- The path with an extension added to its last name, if that is a name and not `..`. -/
def addExtension? (extension : Bytes) (path : Path) : Option Path :=
  let back := path.backwards
  let name := (back.takeWhile fun b => b != slash).reverse
  if name.isEmpty || name == [dot, dot] then none
  else some (path.anchor ++ back.reverse ++ dot :: extension)

example : parent? (ofText ['a', '/', '.', '/', 'b', '/']) = some (ofText ['a']) := by decide +kernel
example : parent? (ofText ['.', '/', 'b']) = some (ofText ['.']) := by decide +kernel
example : parent? (ofText ['/', 'b']) = some (ofText ['/']) := by decide +kernel

end Path

end GrammarBrew
