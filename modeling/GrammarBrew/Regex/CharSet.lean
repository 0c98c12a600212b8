import GrammarBrew.Property.CaseFold
import GrammarBrew.Text.Class

/-!
Sets of characters, as expressions: ranges, runs of a property, and the set operations on them.
Every set has one list of ascending runs of code points that are characters, no two of which meet.
-/

set_option autoImplicit false
set_option relaxedAutoImplicit false

namespace GrammarBrew

inductive CharSet where
  | nothing
  | range (first last : Char)
  | property (runs : List (Nat × Nat))
  | union (a b : CharSet)
  | inter (a b : CharSet)
  | diff (a b : CharSet)
  | compl (a : CharSet)
  | anyCase (a : CharSet)
  deriving DecidableEq, Repr

namespace CharSet

def contains : CharSet → Char → Bool
  | nothing, _ => false
  | range first last, c => decide (first ≤ c) && decide (c ≤ last)
  | property runs, c => Text.inRuns runs c.toNat
  | union a b, c => a.contains c || b.contains c
  | inter a b, c => a.contains c && b.contains c
  | diff a b, c => a.contains c && !b.contains c
  | compl a, c => !a.contains c
  | anyCase a, c =>
    a.contains c || (Property.otherCases c.toNat).any fun n => a.contains (Char.ofNat n)

def single (c : Char) : CharSet := range c c

def symmDiff (a b : CharSet) : CharSet := union (diff a b) (diff b a)

def ofRanges (ranges : List (Char × Char)) : CharSet :=
  ranges.foldl (fun set ends => union set (range ends.1 ends.2)) nothing

def anyOf (properties : List (List (Nat × Nat))) : CharSet :=
  properties.foldl (fun set runs => union set (property runs)) nothing

def ascii : CharSet := range '\x00' '\x7f'

def blanks : CharSet := property Text.blankRuns

def words : CharSet := property Text.wordRuns

/-- Go on from a run with runs that begin no earlier, and join those that meet. -/
def joinFrom (run : Nat × Nat) : List (Nat × Nat) → List (Nat × Nat)
  | [] => [run]
  | next :: rest =>
    if next.1 ≤ run.2 + 1 then joinFrom (run.1, max run.2 next.2) rest
      else run :: joinFrom next rest

/-- Runs that begin one after the other, those that meet joined. -/
def join : List (Nat × Nat) → List (Nat × Nat)
  | [] => []
  | run :: rest => joinFrom run rest

/-- Put a run before the first of some others that begins no earlier, and go on from there. -/
def mergeFrom (run : Nat × Nat) (goOn : List (Nat × Nat) → List (Nat × Nat)) :
    List (Nat × Nat) → List (Nat × Nat)
  | [] => run :: goOn []
  | other :: rest =>
    if run.1 ≤ other.1 then run :: goOn (other :: rest) else other :: mergeFrom run goOn rest

/-- Two lists of runs in the order in which the runs begin. -/
def merge : List (Nat × Nat) → List (Nat × Nat) → List (Nat × Nat)
  | [], others => others
  | run :: rest, others => mergeFrom run (fun others => merge rest others) others

/-- The runs of what lies in either of two lists of ascending runs. -/
def unite (a b : List (Nat × Nat)) : List (Nat × Nat) := join (merge a b)

def gapsFrom (first : Nat) : List (Nat × Nat) → List (Nat × Nat)
  | [] => if first ≤ 0x10ffff then [(first, 0x10ffff)] else []
  | run :: rest =>
    if first < run.1 then (first, run.1 - 1) :: gapsFrom (run.2 + 1) rest
      else gapsFrom (run.2 + 1) rest

/-- The runs of the characters outside ascending runs; surrogates are no characters. -/
def outside (runs : List (Nat × Nat)) : List (Nat × Nat) :=
  gapsFrom 0 (unite [(0xd800, 0xdfff)] runs)

/-- The runs of the other cases of the characters in some runs. -/
def otherCases (runs : List (Nat × Nat)) : List (Nat × Nat) :=
  let found := Property.caseTwins.flatMap fun twins =>
    (if Text.inRuns runs twins.1 then [twins.2] else []) ++
      if Text.inRuns runs twins.2 then [twins.1] else []
  join (found.foldr (fun n others => merge [(n, n)] others) [])

def runs : CharSet → List (Nat × Nat)
  | nothing => []
  | range first last => outside (outside [(first.toNat, last.toNat)])
  | property runs => join runs
  | union a b => unite a.runs b.runs
  | inter a b => outside (unite (outside a.runs) (outside b.runs))
  | diff a b => outside (unite (outside a.runs) b.runs)
  | compl a => outside a.runs
  | anyCase a => unite a.runs (otherCases a.runs)

def isEmpty (set : CharSet) : Bool := set.runs.isEmpty

def isAscii (set : CharSet) : Bool := set.runs.all fun run => decide (run.2 ≤ 0x7f)

example : (compl (union (single 'b') (property [(0x100, 0x10ffff)]))).runs
    = [(0, 0x61), (0x63, 0xff)] := by decide +kernel
example : (anyCase (single 'k')).runs = [(0x4b, 0x4b), (0x6b, 0x6b), (0x212a, 0x212a)] := by
  decide +kernel

end CharSet

end GrammarBrew
