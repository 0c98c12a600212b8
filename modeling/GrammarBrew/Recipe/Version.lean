import GrammarBrew.Pattern.Parser
import GrammarBrew.Regex.Machine

/-!
The version in a source's file name. The first group of the source pattern holds the version number;
a candidate without a number counts below all that have one, and equal numbers are told apart by
name. A number is kept as its digits without leading zeros, of which the longer is the greater, so
that no number is too long to compare.
-/

set_option autoImplicit false
set_option relaxedAutoImplicit false

namespace GrammarBrew

structure Candidate where
  /-- The digits of the version number without leading zeros, if there is a number. -/
  version? : Option Text
  name : Text
  deriving DecidableEq, Repr

namespace Candidate

def wholeName (pattern : Text) : Text := "^(?:".toList ++ pattern ++ ")$".toList

/-- The digits of a number in a text: what follows the characters before the first digit, if it
holds digits alone. Leading zeros are dropped, down to a single one. -/
def digits? (text : Text) : Option Text :=
  let digits := text.dropWhile fun c => !Text.isAsciiDigit c
  if digits.isEmpty || !digits.all Text.isAsciiDigit then none
  else
    let significant := digits.dropWhile fun c => c == '0'
    some (if significant.isEmpty then ['0'] else significant)

/-- A file name as a candidate, if the pattern's machine matches it. -/
def ofName? (machine : Machine) (name : Text) : Option Candidate :=
  (machine.find? name).map fun captures => ⟨(captures.group? 1).bind digits?, name⟩

def olderVersion : Option Text → Option Text → Bool
  | _, none => false
  | none, some _ => true
  | some a, some b => decide (a.length < b.length) || (a.length == b.length && decide (a < b))

def isOlder (a b : Candidate) : Bool :=
  olderVersion a.version? b.version? || (a.version? == b.version? && decide (a.name < b.name))

def newest? : List Candidate → Option Candidate
  | [] => none
  | first :: others =>
    some (others.foldl (fun best other => if best.isOlder other then other else best) first)

example : digits? ['_', '0', '0', '7'] = some ['7'] := by decide
example : digits? ['7', 'a'] = none := by decide
example : isOlder ⟨some ['9'], ['b']⟩ ⟨some ['1', '0'], ['a']⟩ = true := by decide

end Candidate

end GrammarBrew
