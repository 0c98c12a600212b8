import GrammarBrew.Regex.Normal

/-!
The machine of a regular expression: states with a preference among the ways that lead on, and the
search for the leftmost match that prefers what the expression prefers. A state that has been tried
at a place is not tried there again: it led to no match, or leads round in a circle.
-/

set_option autoImplicit false
set_option relaxedAutoImplicit false

namespace GrammarBrew

inductive MachineState where
  | read (runs : List (Nat × Nat)) (next : Nat)
  | look (condition : Look) (next : Nat)
  | fork (first second : Nat)
  | keep (slot next : Nat)
  | accept
  deriving DecidableEq, Repr

/-- States while a machine is built, each named by its place in the array. -/
abbrev States := Array MachineState

namespace States

/-- Add a state, which is named by the number of states before it. -/
def push (states : States) (state : MachineState) : Nat × States :=
  (states.size, Array.push states state)

def round (greedy : Bool) (body exit : Nat) : MachineState :=
  if greedy then .fork body exit else .fork exit body

/-- Copies of a part one after the other, the last leading on to `next`. -/
def copies (add : Nat → States → Nat × States) : Nat → Nat → States → Nat × States
  | 0, next, states => (next, states)
  | count + 1, next, states =>
    let (entry, states) := add next states
    copies add count entry states

/-- Up to so many copies of a part, each of which may be the last. -/
def optionals (add : Nat → States → Nat × States) (greedy : Bool) (exit : Nat) :
    Nat → Nat → States → Nat × States
  | 0, next, states => (next, states)
  | count + 1, next, states =>
    let (entry, states) := add next states
    let (fork, states) := states.push (round greedy entry exit)
    optionals add greedy exit count fork states

def addText (next : Nat) (states : States) : Text → Nat × States
  | [] => (next, states)
  | c :: before =>
    let (entry, states) := states.push (.read [(c.toNat, c.toNat)] next)
    addText entry states before

/-- Add the states of an expression, which lead on to `next`; the first of them is named. -/
def add : Normal → Nat → States → Nat × States
  | .empty, next, states => (next, states)
  | .literal text, next, states => addText next states text.reverse
  | .set runs, next, states => states.push (.read runs next)
  | .look condition, next, states => states.push (.look condition next)
  | .seq first second, next, states =>
    let (entry, states) := add second next states
    add first entry states
  | .alt first second, next, states =>
    let (one, states) := add first next states
    let (other, states) := add second next states
    states.push (.fork one other)
  | .kept number body, next, states =>
    let (close, states) := states.push (.keep (2 * number + 1) next)
    let (entry, states) := add body close states
    states.push (.keep (2 * number) entry)
  | .rep body least (some most) greedy, next, states =>
    let (entry, states) := optionals (add body) greedy next (most - least) next states
    copies (add body) least entry states
  | .rep body least none greedy, next, states =>
    let (again, states) := states.push .accept
    let (entry, states) := add body again states
    let states : States := states.set! again (round greedy entry next)
    match least with
    | 0 =>
      if body.minLength.getD 0 = 0 then states.push (round greedy entry next) else (again, states)
    | count + 1 => copies (add body) count entry states

end States

structure Machine where
  states : States
  start : Nat
  groups : Nat

namespace Machine

/-- The machine of an expression. The slots 0 and 1 keep the ends of the match. -/
def ofRegex (regex : Regex) : Machine :=
  let (accept, states) := States.push #[] .accept
  let (close, states) := states.push (.keep 1 accept)
  let (entry, states) := States.add regex.normal close states
  let (start, states) := states.push (.keep 0 entry)
  ⟨states, start, regex.groups + 1⟩

abbrev Slots := Array (Option Nat)

/-- What is still to try, the most preferred first: a state at a place, with the slots then. -/
abbrev Trials := List (Nat × Nat × Slots)

/-- Try states at places until one accepts. `tried` marks the states that have been tried at each
place; the fuel is more than there are trials to come. -/
def run (states : States) (text : Array Char) :
    Nat → Array Bool → Trials → Option Slots × Array Bool
  | 0, tried, _ => (none, tried)
  | _, tried, [] => (none, tried)
  | fuel + 1, tried, (state, place, slots) :: trials =>
    let mark := state * (text.size + 1) + place
    if tried.getD mark true then run states text fuel tried trials
    else
      let tried := tried.set! mark true
      match states.getD state .accept with
      | .accept => (some slots, tried)
      | .fork first second =>
        run states text fuel tried ((first, place, slots) :: (second, place, slots) :: trials)
      | .keep slot next =>
        run states text fuel tried ((next, place, slots.set! slot (some place)) :: trials)
      | .look condition next =>
        let before := if place = 0 then none else text[place - 1]?
        if condition.holds before text[place]? then
          run states text fuel tried ((next, place, slots) :: trials)
        else run states text fuel tried trials
      | .read runs next =>
        if text[place]?.any fun c => Text.inRuns runs c.toNat then
          run states text fuel tried ((next, place + 1, slots) :: trials)
        else run states text fuel tried trials

/-- The slots of the match that begins at the first of some places, if any. -/
def searchFrom (machine : Machine) (slots : Slots) (text : Array Char) :
    List Nat → Array Bool → Option Slots
  | [], _ => none
  | place :: places, tried =>
    match run machine.states text (3 * (tried.size + 1)) tried [(machine.start, place, slots)] with
    | (some slots, _) => some slots
    | (none, tried) => searchFrom machine slots text places tried

end Machine

/-- A match: the text of each group, the whole match being group 0. -/
structure Captures where
  groups : List (Option Text)
  deriving DecidableEq, Repr

namespace Captures

def group? (captures : Captures) (number : Nat) : Option Text := (captures.groups[number]?).join

end Captures

namespace Machine

/-- The leftmost match in a text, in the way that the expression prefers. -/
def find? (machine : Machine) (text : Text) : Option Captures :=
  let chars := text.toArray
  let tried := Array.replicate (machine.states.size * (chars.size + 1)) false
  let found := machine.searchFrom (Array.replicate (2 * machine.groups) none) chars
    (List.range (chars.size + 1)) tried
  found.map fun slots =>
    ⟨(List.range machine.groups).map fun number =>
      match slots.getD (2 * number) none, slots.getD (2 * number + 1) none with
      | some first, some last => some ((text.drop first).take (last - first))
      | _, _ => none⟩

end Machine

end GrammarBrew
