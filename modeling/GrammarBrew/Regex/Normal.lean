import GrammarBrew.Regex.Syntax
import GrammarBrew.Text.Utf8

/-!
The normal form of an expression, which tells how large its machine is. Literals that follow each
other are one, alternatives of single characters or of sets are one set, and what all alternatives
begin with stands before them. The parts of a sequence, and the branches of a choice, lie along the
right.
-/

set_option autoImplicit false
set_option relaxedAutoImplicit false

namespace GrammarBrew

inductive Normal where
  | empty
  | literal (text : Text)
  /-- Matches one character in ascending runs; without any it never matches. -/
  | set (runs : List (Nat × Nat))
  | look (condition : Look)
  /-- Matches at least so many times in a row and, if there is a bound, at most so many. -/
  | rep (body : Normal) (least : Nat) (most : Option Nat) (greedy : Bool)
  | kept (number : Nat) (body : Normal)
  | seq (first second : Normal)
  | alt (first second : Normal)
  deriving DecidableEq, Repr, Inhabited

namespace Normal

/-- The bytes of the shortest match; what never matches has none. -/
def minLength : Normal → Option Nat
  | empty => some 0
  | literal text => some (Text.encode text).length
  | set runs => runs.head?.map fun run => (Char.ofNat run.1).utf8Size
  | look _ => some 0
  | rep body least _ _ => body.minLength.map (least * ·)
  | kept _ body => body.minLength
  | seq a b => do return (← a.minLength) + (← b.minLength)
  | alt a b => do return min (← a.minLength) (← b.minLength)

def maxLength : Normal → Option Nat
  | empty => some 0
  | literal text => some (Text.encode text).length
  | set runs => runs.getLast?.map fun run => (Char.ofNat run.2).utf8Size
  | look _ => some 0
  | rep body _ most _ => do return (← most) * (← body.maxLength)
  | kept _ body => body.maxLength
  | seq a b => do return (← a.maxLength) + (← b.maxLength)
  | alt a b => do return max (← a.maxLength) (← b.maxLength)

/-- The parts of a sequence; what matches nothing has none. -/
def parts : Normal → List Normal
  | empty => []
  | seq first second => first.parts ++ second.parts
  | normal => [normal]

def ofParts : List Normal → Normal
  | [] => empty
  | [part] => part
  | part :: rest => seq part (ofParts rest)

def branches : Normal → List Normal
  | alt first second => first.branches ++ second.branches
  | normal => [normal]

/-- The choice between some branches; without any it never matches. -/
def ofBranches : List Normal → Normal
  | [] => set []
  | [branch] => branch
  | branch :: rest => alt branch (ofBranches rest)

/-- The characters of some runs; a single one is a literal. -/
def ofRuns : List (Nat × Nat) → Normal
  | [(first, last)] => if first = last then literal [Char.ofNat first] else set [(first, last)]
  | runs => set runs

/-- Put a part before others; literals that meet become one. -/
def before : Normal → List Normal → List Normal
  | literal text, literal next :: rest => literal (text ++ next) :: rest
  | part, rest => part :: rest

def append (first second : List Normal) : List Normal := first.foldr before second

/-- A repetition. What matches no character is repeated once at most. -/
def ofRep (body : Normal) (least : Nat) (most : Option Nat) (greedy : Bool) : Normal :=
  let isBlank := decide (body.maxLength = some 0)
  let least := if isBlank then min least 1 else least
  let most := if isBlank then some (min (most.getD 1) 1) else most
  if least = 0 ∧ most = some 0 then empty
  else if least = 1 ∧ most = some 1 then body
  else rep body least most greedy

def lone? : List Normal → Option (List (Nat × Nat))
  | [literal [c]] => some [(c.toNat, c.toNat)]
  | _ => none

def setOf? : List Normal → Option (List (Nat × Nat))
  | [set runs] => some runs
  | _ => none

def commonStart : List Normal → List Normal → List Normal
  | a :: as, b :: bs => if a = b then a :: commonStart as bs else []
  | _, _ => []

/-- What all branches begin with in common, if each has at least two parts. -/
def sharedStart : List (List Normal) → List Normal
  | [] => []
  | first :: others =>
    if (first :: others).all fun branch => decide (2 ≤ branch.length) then
      others.foldl commonStart first
    else []

/-- The branches of a choice, each as its parts; a branch that is a choice itself gives its own. -/
def flatten (choice : List (List Normal)) : List (List Normal) :=
  choice.flatMap fun branch =>
    match branch with
    | [alt first second] => (alt first second).branches.map parts
    | _ => [branch]

/-- The parts of the choice between some branches, each given by its parts; the bound is how many
parts the branches may have in common. -/
def choose : Nat → List (List Normal) → List Normal
  | bound, choice =>
    match flatten choice with
    | [branch] => branch
    | all =>
      match (all.mapM lone?) <|> (all.mapM setOf?) with
      | some sets => (ofRuns (sets.foldl CharSet.unite [])).parts
      | none =>
        let start := sharedStart all
        match bound with
        | 0 => [ofBranches (all.map ofParts)]
        | bound + 1 =>
          if start.isEmpty then [ofBranches (all.map ofParts)]
          else append start (choose bound (all.map fun branch => branch.drop start.length))

def chooseAll (choice : List (List Normal)) : List Normal :=
  choose (((choice.map List.length).max?).getD 0) choice

end Normal

namespace Regex

/-- The branches of an expression in normal form, each as its parts. -/
def normalBranches : Regex → List (List Normal)
  | empty => [[]]
  | set chars => [(Normal.ofRuns chars.runs).parts]
  | look condition => [[.look condition]]
  | seq first second =>
    [Normal.append (Normal.chooseAll first.normalBranches) (Normal.chooseAll second.normalBranches)]
  | alt first second => Normal.chooseAll first.normalBranches :: second.normalBranches
  | rep body least most greedy =>
    [(Normal.ofRep (Normal.ofParts (Normal.chooseAll body.normalBranches)) least most greedy).parts]
  | group none body => [Normal.chooseAll body.normalBranches]
  | group (some number) body =>
    [[.kept number (Normal.ofParts (Normal.chooseAll body.normalBranches))]]

def normal (regex : Regex) : Normal := Normal.ofParts (Normal.chooseAll regex.normalBranches)

example : (seq (set (.single 'a')) (set (.single 'b'))).normal = .literal ['a', 'b'] := by
  decide +kernel
example : (alt (set (.single 'a')) (set (.single 'b'))).normal = .set [(0x61, 0x62)] := by
  decide +kernel

end Regex

end GrammarBrew
