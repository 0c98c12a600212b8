import GrammarBrew.Pattern.Property
import GrammarBrew.Pattern.Reading
import GrammarBrew.Regex.Syntax

/-!
Escapes: characters by their code points, classes by a letter or a property, and conditions. Where
Unicode is off a class holds ASCII alone, and two digits of base sixteen stand for a byte.
-/

set_option autoImplicit false
set_option relaxedAutoImplicit false

namespace GrammarBrew.Pattern

open Read

def hexValue? (c : Char) : Option Nat :=
  if '0' ≤ c ∧ c ≤ '9' then some (c.toNat - '0'.toNat)
  else if 'a' ≤ c ∧ c ≤ 'f' then some (c.toNat - 'a'.toNat + 10)
  else if 'A' ≤ c ∧ c ≤ 'F' then some (c.toNat - 'A'.toNat + 10)
  else none

def ofDigits (base : Nat) (digits : List Nat) : Nat :=
  digits.foldl (fun value digit => value * base + digit) 0

def scalar (n : Nat) : Read Char :=
  if n.isValidChar then return Char.ofNat n else fail .badEscape

/-- Take hexadecimal digits up to a closing brace; the fuel is the length of the pattern. -/
def hexInBraces : Nat → List Nat → Read (List Nat)
  | 0, _ => fail .unfinished
  | fuel + 1, digits => do
    advanceSpace
    match ← next with
    | '\x7d' => return digits.reverse
    | c =>
      match hexValue? c with
      | some d => hexInBraces fuel (d :: digits)
      | none => fail .badEscape

def hexDigits : Nat → List Nat → Read (List Nat)
  | 0, digits => return digits.reverse
  | count + 1, digits => do
    match hexValue? (← next) with
    | some d =>
      advanceSpace
      hexDigits count (d :: digits)
    | none => fail .badEscape

/-- What an escape or a plain character stands for. -/
inductive Primitive where
  | literal (c : Char)
  /-- A byte that is no character, by the character with its number. -/
  | byte (c : Char)
  | chars (set : CharSet)
  | condition (place : Look)

/-- The character or the byte of a hexadecimal escape, where its letter comes next. -/
def hexEscape : Read Primitive := do
  let letter ← next
  advanceSpace
  match ← next with
  | '\x7b' =>
    let digits ← hexInBraces (← get).rest.length []
    advanceSpace
    if digits.isEmpty then fail .badEscape else return .literal (← scalar (ofDigits 16 digits))
  | _ =>
    let count := if letter = 'x' then 2 else if letter = 'u' then 4 else 8
    let c ← scalar (ofDigits 16 (← hexDigits count []))
    if letter = 'x' ∧ !(← get).flags.unicode ∧ '\x7f' < c then return .byte c else return .literal c

/-- A set with the other cases of its characters; of letters beyond ASCII only with Unicode. -/
def fold (unicode : Bool) (set : CharSet) : CharSet :=
  if unicode then .anyCase set else .union set (.inter (.anyCase (.inter set .ascii)) .ascii)

/-- What is not in a set; without Unicode among the bytes alone. -/
def complement (unicode : Bool) (set : CharSet) : CharSet :=
  if unicode then .compl set else .diff (.range '\x00' '\xff') set

def foldAndNegate (flags : Flags) (negated : Bool) (set : CharSet) : CharSet :=
  let folded := if flags.ignoreCase then fold flags.unicode set else set
  if negated then complement flags.unicode folded else folded

/-- A set where case may be ignored, or its complement, if it holds no bytes that are no text. -/
def finishSet (negated : Bool) (set : CharSet) : Read CharSet := do
  let flags := (← get).flags
  let finished := foldAndNegate flags negated set
  if !flags.unicode && !finished.isAscii then fail .notText
  return finished

/-- The name of a property in braces; the fuel is the length of the pattern. -/
def propertyInBraces : Nat → Text → Read Text
  | 0, _ => fail .unfinished
  | fuel + 1, name => do
    advanceSpace
    match ← next with
    | '\x7d' =>
      advance
      return name.reverse
    | c => propertyInBraces fuel (c :: name)

def propertyEscape : Read CharSet := do
  let negated := (← next) == 'P'
  advanceSpace
  let flags := (← get).flags
  let name ← match ← next with
    | '\x7b' => propertyInBraces (← get).rest.length []
    | '\\' => fail .badEscape
    | c =>
      advanceSpace
      pure [c]
  if !flags.unicode then fail .notText
  match property? name with
  | some (isLeftOut, set) => return foldAndNegate flags (negated != isLeftOut) set
  | none => fail .unknownProperty

/-- The class of a letter such as `d`, in ASCII alone where Unicode is off. -/
def letterClass (letter : Char) : Read CharSet := do
  let flags := (← get).flags
  let lower := letter.toLower
  let set := if lower = 'd' then Property.digits else if lower = 's' then .blanks else .words
  if flags.unicode then
    return if letter.isUpper then .compl set else set
  else if letter.isUpper then fail .notText
  else return .inter set .ascii

/-- The name in braces after a word edge, if there is one; braces that begin otherwise are a
count. -/
def wordEdgeName : Nat → Text → Read Text
  | 0, _ => fail .unfinished
  | fuel + 1, name => do
    match ← peek with
    | some '\x7d' =>
      advance
      return name.reverse
    | some c =>
      if c.isAlpha || c == '-' then
        advanceSpace
        wordEdgeName fuel (c :: name)
      else fail .badEscape
    | none => fail .unfinished

/-- The condition of `\b`, with what may stand in braces after it. -/
def wordEdge : Read Look := do
  let unicode := (← get).flags.unicode
  let before ← get
  match before.rest with
  | '\x7b' :: _ =>
    advanceSpace
    let c ← next
    if c.isAlpha || c == '-' then
      match String.ofList (← wordEdgeName before.rest.length []) with
      | "start" => return .wordStart unicode
      | "end" => return .wordEnd unicode
      | "start-half" => return .noWordBefore unicode
      | "end-half" => return .noWordAfter unicode
      | _ => fail .badEscape
    else
      set before
      return .wordEdge unicode
  | _ => return .wordEdge unicode

def escape : Read Primitive := do
  advance
  let c ← next
  let unicode := (← get).flags.unicode
  if c.isDigit then fail .badEscape
  else if c == 'x' || c == 'u' || c == 'U' then hexEscape
  else if c == 'p' || c == 'P' then return .chars (← propertyEscape)
  else
    advance
    if ['d', 's', 'w', 'D', 'S', 'W'].contains c then return .chars (← letterClass c)
    else match c with
      | 'a' => return .literal '\x07'
      | 'f' => return .literal '\x0c'
      | 't' => return .literal '\t'
      | 'r' => return .literal '\r'
      | 'n' => return .literal '\n'
      | 'v' => return .literal '\x0b'
      | 'A' => return .condition .textStart
      | 'z' => return .condition .textEnd
      | 'b' => return .condition (← wordEdge)
      | 'B' => return .condition (.noWordEdge unicode)
      | '<' => return .condition (.wordStart unicode)
      | '>' => return .condition (.wordEnd unicode)
      | _ => if c.isAlpha || '\x7f' < c then fail .badEscape else return .literal c

end GrammarBrew.Pattern
