import GrammarBrew.Pattern.Reading

/-!
What stands behind an opening parenthesis: the name of a group, or flags for it. Flags hold from
where they are set to the end of the group that they stand in, the alternatives that follow
included.
-/

set_option autoImplicit false
set_option relaxedAutoImplicit false

namespace GrammarBrew.Pattern

open Read

def setFlag (letter : Char) (value : Bool) (flags : Flags) : Option Flags :=
  match letter with
  | 'i' => some { flags with ignoreCase := value }
  | 'm' => some { flags with multiLine := value }
  | 's' => some { flags with dotMatchesNewline := value }
  | 'U' => some { flags with swapGreed := value }
  | 'u' => some { flags with unicode := value }
  | 'R' => some { flags with crlf := value }
  | 'x' => some { flags with verbose := value }
  | _ => none

/-- Flags up to a colon or a closing parenthesis, which stays; `seen` are the letters so far. -/
def flagList : Nat → Bool → Text → Flags → Read (Text × Flags)
  | 0, _, _, _ => fail .unfinished
  | fuel + 1, value, seen, flags => do
    let c ← next
    if c = ':' ∨ c = ')' then
      if seen.head? = some '-' then fail .badFlag else return (seen, flags)
    else if seen.contains c then fail .badFlag
    else if c = '-' then
      advance
      flagList fuel false (c :: seen) flags
    else match setFlag c value flags with
      | none => fail .badFlag
      | some flags =>
        advance
        flagList fuel value (c :: seen) flags

/-- Whether a character may stand in a group's name, the first place being stricter. -/
def isGroupNameChar (first : Bool) (c : Char) : Bool :=
  if first then c == '_' || Text.inRuns Text.alphabeticRuns c.toNat
  else c == '_' || c == '.' || c == '[' || c == ']' || Text.isAlphanumeric c

def groupName : Nat → Text → Read Text
  | 0, _ => fail .unfinished
  | fuel + 1, name => do
    let c ← next
    if c = '>' then
      advance
      if name.isEmpty then fail .badGroupName else return name.reverse
    else if isGroupNameChar name.isEmpty c then
      advance
      groupName fuel (c :: name)
    else fail .badGroupName

inductive Opening where
  /-- A group with its number, if it is kept, and the flags within. -/
  | group (number : Option Nat) (flags : Flags)
  | flags (flags : Flags)

def nextGroup : Read Nat := do
  modify fun reading => { reading with groups := reading.groups + 1 }
  return (← get).groups

/-- What stands between an opening parenthesis and the body of its group. -/
def opening : Read Opening := do
  advanceSpace
  let reading ← get
  let begins (text : String) : Bool := text.toList.isPrefixOf reading.rest
  if begins "?=" || begins "?!" || begins "?<=" || begins "?<!" then fail .lookAround
  let named ← takeIf "?P<"
  let named ← if named then pure true else takeIf "?<"
  if named then
    let number ← nextGroup
    let name ← groupName reading.rest.length []
    if (← get).names.contains name then fail .badGroupName
    modify fun reading => { reading with names := name :: reading.names }
    return .group (some number) reading.flags
  else if (← takeIf "?") then
    let (seen, flags) ← flagList reading.rest.length true [] reading.flags
    let last ← next
    advance
    if last = ')' then
      if seen.isEmpty then fail .nothingToRepeat else return .flags flags
    else return .group none flags
  else return .group (some (← nextGroup)) reading.flags

end GrammarBrew.Pattern
