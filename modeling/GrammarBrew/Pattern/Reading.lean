import GrammarBrew.Text.Class

/-!
Reading a pattern from the front. Every step takes at least one character, which bounds what follows
it. In verbose mode blanks and comments between the parts of a pattern count for nothing.
-/

set_option autoImplicit false
set_option relaxedAutoImplicit false

namespace GrammarBrew.Pattern

inductive Fault where
  /-- A group or class that is never closed, or an escape or flag list that breaks off. -/
  | unfinished
  | unopenedGroup
  | nothingToRepeat
  /-- A repetition count that is no number, too large, or falls from the least to the most. -/
  | badCount
  | badEscape
  /-- A range in a class that goes down or whose ends are no characters. -/
  | badRange
  | badFlag
  /-- A group name with a character that is not allowed, without any, or given twice. -/
  | badGroupName
  | lookAround
  | unknownProperty
  | notText
  | tooDeep
  | tooLarge
  deriving DecidableEq, Repr

structure Flags where
  ignoreCase : Bool := false
  multiLine : Bool := false
  dotMatchesNewline : Bool := false
  swapGreed : Bool := false
  unicode : Bool := true
  crlf : Bool := false
  verbose : Bool := false
  deriving DecidableEq, Repr

/-- The state of reading: what is left of the pattern, the flags here, and the groups so far. -/
structure Reading where
  rest : Text
  flags : Flags := {}
  groups : Nat := 0
  names : List Text := []
  deriving DecidableEq, Repr

abbrev Read (α : Type) := StateT Reading (Except Fault) α

namespace Read

def fail {α : Type} (fault : Fault) : Read α := fun _ => .error fault

def peek : Read (Option Char) := do return (← get).rest.head?

def next : Read Char := do
  match (← get).rest with
  | c :: _ => return c
  | [] => fail .unfinished

def advance : Read Unit := modify fun reading => { reading with rest := reading.rest.tail }

def takeIf (text : String) : Read Bool := do
  match text.toList.isPrefixOf? (← get).rest with
  | some rest =>
    modify fun reading => { reading with rest := rest }
    return true
  | none => return false

def dropSpace (inComment : Bool) : Text → Text
  | [] => []
  | c :: rest =>
    if inComment then dropSpace (c != '\n') rest
    else if Text.isBlank c then dropSpace false rest
    else if c = '#' then dropSpace true rest
    else c :: rest

def skipSpace : Read Unit := modify fun reading =>
  if reading.flags.verbose then { reading with rest := dropSpace false reading.rest } else reading

/-- Take one character, and what counts for nothing after it. -/
def advanceSpace : Read Unit := do
  advance
  skipSpace

def skipBlanks : Read Unit := modify fun reading =>
  { reading with rest := reading.rest.dropWhile Text.isBlank }

end Read

end GrammarBrew.Pattern
