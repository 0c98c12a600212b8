import GrammarBrew.Text.Class

/-!
Reading TOML text from left to right: the causes for which reading stops, the steps that take what
comes next, and what counts for nothing: blanks, comments and line ends. A line ends in a line feed,
with or without a carriage return before it.
-/

set_option autoImplicit false
set_option relaxedAutoImplicit false

namespace GrammarBrew.Toml

inductive Fault where
  | unfinished
  | badKey
  | badValue
  | badString
  | badComment
  | missing (mark : Text)
  | trailing
  | duplicate (key : Text)
  | notATable (key : Text)
  | tooDeep
  deriving DecidableEq, Repr

namespace Fault

def message : Fault → Text
  | unfinished => "the document breaks off".toList
  | badKey => "a key is missing".toList
  | badValue => "a value is missing or not valid".toList
  | badString => "a string holds what it may not hold".toList
  | badComment => "a comment holds a control character".toList
  | missing mark => "expected ".toList ++ mark
  | trailing => "expected the end of the line".toList
  | duplicate key => "duplicate key ".toList ++ key
  | notATable key => key ++ " is no table".toList
  | tooDeep => "values are nested too deep".toList

end Fault

/-- A step of reading; the state is what is left of the text. -/
abbrev Read (α : Type) := StateT Text (Except Fault) α

def isSpace (c : Char) : Bool := c == ' ' || c == '\t'

/-- A character that comments and strings may hold: no control but the tab. -/
def isPrintable (c : Char) : Bool := c == '\t' || (decide (' ' ≤ c) && c != '\x7f')

/-- How deep values, and names in a key, may lie in each other. -/
def depthLimit : Nat := 80

namespace Read

def fail {α : Type} (fault : Fault) : Read α := fun _ => .error fault

def peek : Read (Option Char) := fun rest => .ok (rest.head?, rest)

def takeIf (mark : Text) : Read Bool := fun rest =>
  match mark.isPrefixOf? rest with
  | some after => .ok (true, after)
  | none => .ok (false, rest)

def expect (mark : Text) : Read Unit := do
  if !(← takeIf mark) then fail (.missing mark)

def takeWhile (kind : Char → Bool) : Read Text := fun rest =>
  .ok (rest.takeWhile kind, rest.dropWhile kind)

def skipSpaces : Read Unit := fun rest => .ok ((), rest.dropWhile isSpace)

def afterLineEnd? : Text → Option Text
  | '\n' :: rest => some rest
  | '\r' :: '\n' :: rest => some rest
  | _ => none

def takeLineEnd : Read Bool := fun rest =>
  match afterLineEnd? rest with
  | some after => .ok (true, after)
  | none => .ok (false, rest)

def skipComment : Read Unit := do
  if ← takeIf ['#'] then
    let _ ← takeWhile isPrintable
    let rest ← get
    if !rest.isEmpty && (afterLineEnd? rest).isNone then fail .badComment

def finishLine : Read Unit := do
  skipSpaces
  skipComment
  if !(← takeLineEnd) && !(← get).isEmpty then fail .trailing

/-- Skip blanks, comments and line ends; each round takes a character, so there are no more of them
than the text is long. -/
def skipLines : Nat → Read Unit
  | 0 => return ()
  | rounds + 1 => do
    skipSpaces
    skipComment
    if ← takeLineEnd then skipLines rounds

def skipFiller : Read Unit := do skipLines ((← get).length + 1)

end Read

end GrammarBrew.Toml
