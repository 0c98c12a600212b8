import GrammarBrew.Pattern.Escape

/-!
Classes in brackets: characters, ranges, escapes and classes within, and what is common to two of
them, in one alone, or in either but not in both. A class tells how deep its parts lie in each
other.
-/

set_option autoImplicit false
set_option relaxedAutoImplicit false

namespace GrammarBrew.Pattern

open Read

def asciiClass? (name : Text) : Option CharSet :=
  let ranges? : Option (List (Char × Char)) :=
    match String.ofList name with
    | "alnum" => some [('0', '9'), ('A', 'Z'), ('a', 'z')]
    | "alpha" => some [('A', 'Z'), ('a', 'z')]
    | "ascii" => some [('\x00', '\x7f')]
    | "blank" => some [('\t', '\t'), (' ', ' ')]
    | "cntrl" => some [('\x00', '\x1f'), ('\x7f', '\x7f')]
    | "digit" => some [('0', '9')]
    | "graph" => some [('!', '~')]
    | "lower" => some [('a', 'z')]
    | "print" => some [(' ', '~')]
    | "punct" => some [('!', '/'), (':', '@'), ('[', '\x60'), ('\x7b', '~')]
    | "space" => some [('\t', '\r'), (' ', ' ')]
    | "upper" => some [('A', 'Z')]
    | "word" => some [('0', '9'), ('A', 'Z'), ('_', '_'), ('a', 'z')]
    | "xdigit" => some [('0', '9'), ('A', 'F'), ('a', 'f')]
    | _ => none
  ranges?.map CharSet.ofRanges

/-- A named ASCII class such as `[:alpha:]`, if a text begins with one: negated or not, the class,
and what is left. -/
def namedClass? (text : Text) : Option (Bool × CharSet × Text) :=
  match text with
  | '[' :: ':' :: rest =>
    let negated := rest.head? == some '^'
    let named := if negated then rest.tail else rest
    match Text.cut [':'] named with
    | some (name, ']' :: after) => (asciiClass? name).map fun set => (negated, set, after)
    | _ => none
  | _ => none

def classItem : Read Primitive := do
  match ← next with
  | '\\' => escape
  | c =>
    advance
    return .literal c

def rangeEnd : Primitive → Read Char
  | .literal c => return c
  | .byte c => return c
  | _ => fail .badRange

/-- The set of an item; without Unicode a character beyond ASCII is none. -/
def itemSet : Primitive → Read CharSet
  | .literal c => do
    if !(← get).flags.unicode && '\x7f' < c then fail .notText
    return .single c
  | .byte c => return .single c
  | .chars set => return set
  | .condition _ => fail .badEscape

/-- What stands before the first character that is no blank; the first comment sign before it counts
as a blank. -/
def dropBlanks (seenSign : Bool) : Text → Text
  | [] => []
  | c :: rest =>
    if Text.isBlank c then dropBlanks seenSign rest
    else if c = '#' ∧ !seenSign then dropBlanks true rest
    else c :: rest

/-- The character that decides whether a hyphen, which comes next, stands within a range. -/
def peekBeyondHyphen : Read (Option Char) := do
  let reading ← get
  let rest := reading.rest.tail
  return (if reading.flags.verbose then dropBlanks false rest else rest).head?

def classRange : Read CharSet := do
  let first ← classItem
  skipSpace
  let hyphen ← next
  let beyond ← peekBeyondHyphen
  if hyphen != '-' || beyond == some ']' || beyond == some '-' then itemSet first
  else
    advanceSpace
    let _ ← next
    let last ← classItem
    let low ← rangeEnd first
    let high ← rangeEnd last
    if high < low then fail .badRange
    let _ ← itemSet first
    let _ ← itemSet last
    return .range low high

/-- A class, and how deep its parts lie in each other. -/
structure Class where
  set : CharSet
  depth : Nat := 0

/-- The items of a class that stand side by side. -/
structure Items where
  set : CharSet := .nothing
  count : Nat := 0
  depth : Nat := 0

namespace Items

def add (items : Items) (item : Class) : Items :=
  ⟨.union items.set item.set, items.count + 1, max items.depth item.depth⟩

/-- How deep items lie in the class: several lie in the union that they make. -/
def depthTogether (items : Items) : Nat := if items.count < 2 then items.depth else items.depth + 1

end Items

inductive ClassOp where
  | inter
  | diff
  | symmDiff

namespace ClassOp

def apply : ClassOp → CharSet → CharSet → CharSet
  | inter, a, b => .inter a b
  | diff, a, b => .diff a b
  | symmDiff, a, b => .symmDiff a b

end ClassOp

def applyOp (pending : Option (ClassOp × Class)) (right : Class) : Class :=
  match pending with
  | none => right
  | some (op, left) => ⟨op.apply left.set right.set, max left.depth right.depth + 1⟩

/-- The hyphens that a class begins with, which stand for themselves. -/
def leadingHyphens : Nat → Items → Read Items
  | 0, items => return items
  | fuel + 1, items => do
    match ← next with
    | '-' =>
      advanceSpace
      leadingHyphens fuel (items.add ⟨.single '-', 0⟩)
    | _ => return items

mutual

def bracketed : Nat → Read Class
  | 0 => fail .tooDeep
  | fuel + 1 => do
    advanceSpace
    let negated := (← next) == '^'
    if negated then advanceSpace
    let hyphens ← leadingHyphens (← get).rest.length {}
    let start ← if hyphens.count = 0 && (← next) == ']' then do
        advanceSpace
        pure (hyphens.add ⟨.single ']', 0⟩)
      else pure hyphens
    let body ← classBody fuel none start
    return ⟨← finishSet negated body.set, body.depth + 1⟩

/-- The rest of a class up to its closing bracket, after the items so far and an operation that
waits for them. -/
def classBody : Nat → Option (ClassOp × Class) → Items → Read Class
  | 0, _, _ => fail .tooDeep
  | fuel + 1, pending, items => do
    skipSpace
    let c ← next
    let flags := (← get).flags
    let whole : Class := ⟨items.set, items.depthTogether⟩
    let operand := applyOp pending { whole with set := foldAndNegate flags false whole.set }
    if c = '[' then
      match namedClass? (← get).rest with
      | some (negated, set, rest) =>
        modify fun reading => { reading with rest := rest }
        let named ← finishSet negated set
        classBody fuel pending (items.add ⟨named, 0⟩)
      | none =>
        let inner ← bracketed fuel
        classBody fuel pending (items.add inner)
    else if c = ']' then
      advance
      return if pending.isNone then whole else operand
    else if (← takeIf "&&") then
      classBody fuel (some (.inter, operand)) {}
    else if (← takeIf "--") then
      classBody fuel (some (.diff, operand)) {}
    else if (← takeIf "~~") then
      classBody fuel (some (.symmDiff, operand)) {}
    else
      let item ← classRange
      classBody fuel pending (items.add ⟨item, 0⟩)

end

end GrammarBrew.Pattern
