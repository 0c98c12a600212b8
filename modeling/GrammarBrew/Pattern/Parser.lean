import GrammarBrew.Pattern.Class
import GrammarBrew.Pattern.Group
import GrammarBrew.Regex.Size

/-!
Whole patterns: sequences of parts, and alternatives between them. A pattern has limits: how deep
its parts may lie in each other, and how large its machine may be.
-/

set_option autoImplicit false
set_option relaxedAutoImplicit false

namespace GrammarBrew.Pattern

open Read

def decimal : Read Nat := do
  skipBlanks
  let rec digits : Nat → List Nat → Read (List Nat)
    | 0, seen => return seen.reverse
    | fuel + 1, seen => do
      match ← peek with
      | some c =>
        if c.isDigit then
          advanceSpace
          digits fuel ((c.toNat - '0'.toNat) :: seen)
        else return seen.reverse
      | none => return seen.reverse
  let seen ← digits (← get).rest.length []
  skipBlanks
  let value := ofDigits 10 seen
  if seen.isEmpty || Nat.pow 2 32 ≤ value then fail .badCount else return value

/-- The counts of a repetition in braces, from the opening one on. -/
def counts : Read (Nat × Option Nat) := do
  advanceSpace
  let least ← decimal
  let comma ← next
  let most ← if comma = ',' then do
      advanceSpace
      if (← next) = '\x7d' then pure none else some <$> decimal
    else pure (some least)
  if (← next) != '\x7d' then fail .unfinished
  advanceSpace
  if most.any fun most => decide (most < least) then fail .badCount
  return (least, most)

/-- Whether a repetition is greedy: a question mark turns it, and so does the flag. -/
def greed : Read Bool := do
  let lazily ← takeIf "?"
  return lazily == (← get).flags.swapGreed

def literal (c : Char) : Read Regex := do
  let flags := (← get).flags
  if flags.ignoreCase && (flags.unicode || decide (c ≤ '\x7f')) then
    return .set (foldAndNegate flags false (.single c))
  else return .char c

def anyChar : Read Regex := do
  let flags := (← get).flags
  if !flags.unicode then fail .notText
  let lineEnds := if flags.dotMatchesNewline then CharSet.nothing
    else if flags.crlf then .union (.single '\n') (.single '\r')
    else .single '\n'
  return .set (.compl lineEnds)

def startCondition (flags : Flags) : Look :=
  if flags.multiLine then .lineStart flags.crlf else .textStart

def endCondition (flags : Flags) : Look :=
  if flags.multiLine then .lineEnd flags.crlf else .textEnd

/-- A part of a pattern: its expression, if it is no flag list, and how deep its own parts lie in
each other. -/
structure Part where
  regex? : Option Regex
  depth : Nat := 0

/-- The expression of some parts one after the other, given backwards; several lie in the sequence
that they make. -/
def sequence (parts : List Part) : Regex × Nat :=
  let deepest := parts.foldl (fun depth part => max depth part.depth) 0
  (match parts.filterMap Part.regex? with
    | [] => .empty
    | last :: before => before.foldl (fun after part => .seq part after) last,
    if parts.length < 2 then deepest else deepest + 1)

/-- The expression of some branches, each with its depth, given backwards; several lie in the choice
that they make. -/
def choice (branches : List (Regex × Nat)) : Regex × Nat :=
  let deepest := branches.foldl (fun depth branch => max depth branch.2) 0
  match branches with
  | [] => (.empty, 0)
  | [branch] => branch
  | last :: before => (before.foldl (fun after branch => .alt branch.1 after) last.1, deepest + 1)

mutual

/-- Branches up to a closing parenthesis or the end; `seen` are the branches so far, the latest
first. -/
def branches : Nat → List (Regex × Nat) → Read (Regex × Nat)
  | 0, _ => fail .tooDeep
  | fuel + 1, seen => do
    let branch ← parts fuel []
    if (← takeIf "|") then branches fuel (branch :: seen) else return choice (branch :: seen)

/-- A sequence of parts up to a bar, a closing parenthesis or the end; `seen` are the parts so far,
the latest first. -/
def parts : Nat → List Part → Read (Regex × Nat)
  | 0, _ => fail .tooDeep
  | fuel + 1, seen => do
    skipSpace
    let goOn (regex : Regex) (depth : Nat) : Read (Regex × Nat) :=
      parts fuel (⟨some regex, depth⟩ :: seen)
    let repeated (least : Nat) (most : Option Nat) : Read (Regex × Nat) := do
      match seen with
      | ⟨some regex, depth⟩ :: before =>
        parts fuel (⟨some (.rep regex least most (← greed)), depth + 1⟩ :: before)
      | _ => fail .nothingToRepeat
    match ← peek with
    | none => return sequence seen
    | some '|' => return sequence seen
    | some ')' => return sequence seen
    | some '(' =>
      let outer := (← get).flags
      match ← opening with
      | .flags flags =>
        modify fun reading => { reading with flags := flags }
        parts fuel (⟨none, 0⟩ :: seen)
      | .group number flags =>
        modify fun reading => { reading with flags := flags }
        let (body, depth) ← branches fuel []
        if (← next) != ')' then fail .unfinished
        modify fun reading => { reading with flags := outer }
        advance
        goOn (.group number body) (depth + 1)
    | some '[' =>
      let found ← bracketed fuel
      goOn (.set found.set) found.depth
    | some '?' =>
      advance
      repeated 0 (some 1)
    | some '*' =>
      advance
      repeated 0 none
    | some '+' =>
      advance
      repeated 1 none
    | some '\x7b' =>
      match seen with
      | ⟨some _, _⟩ :: _ =>
        let (least, most) ← counts
        repeated least most
      | _ => fail .nothingToRepeat
    | some '\\' =>
      match ← escape with
      | .literal c => goOn (← literal c) 0
      | .byte _ => fail .notText
      | .chars set => goOn (.set set) 0
      | .condition condition => goOn (.look condition) 0
    | some '.' =>
      advance
      goOn (← anyChar) 0
    | some '^' =>
      advance
      goOn (.look (startCondition (← get).flags)) 0
    | some '$' =>
      advance
      goOn (.look (endCondition (← get).flags)) 0
    | some c =>
      advance
      goOn (← literal c) 0

end

def depthLimit : Nat := 250

def read (pattern : Text) : Except Fault Regex := do
  let ((regex, depth), reading) ← (branches (2 * pattern.length + 4) []).run ⟨pattern, {}, 0, []⟩
  if !reading.rest.isEmpty then throw .unopenedGroup
  if depthLimit < depth then throw .tooDeep
  return regex

def parse (pattern : Text) : Except Fault Regex := do
  let regex ← read pattern
  if Regex.sizeLimit < regex.size then throw .tooLarge
  return regex

end GrammarBrew.Pattern
