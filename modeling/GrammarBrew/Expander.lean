import GrammarBrew.BrewError
import GrammarBrew.Graph.Cycle
import GrammarBrew.MacroTable.Basic
import GrammarBrew.Matcher

/-!
Expansion to a fixed point. A pass applies each rule to the text once, in name order, each rule
seeing what the ones before it have left; passes repeat until one of them replaces nothing. A table
whose values lead back to one of their own names is refused beforehand, and the number of passes is
bounded because a name may also first appear once a value stands beside other text.
-/

set_option autoImplicit false
set_option relaxedAutoImplicit false

namespace GrammarBrew

structure Rule where
  name : Text
  value : Text
  matcher : Matcher
  deriving DecidableEq, Repr

namespace Rule

def tooLarge : Text :=
  "Compiled regex exceeds size limit of ".toList ++ Text.ofNat Regex.sizeLimit ++
    " bytes.".toList

/-- The rule of a macro, unless its name is too long for a matcher. -/
def ofMacro (mode : MatchMode) (name value : Text) : Except BrewError Rule :=
  if Regex.sizeLimit < (Matcher.ofName mode name).normal.size then
    .error (.invalidName name tooLarge)
  else .ok ⟨name, value, Matcher.ofName mode name⟩

/-- The rules of a table's entries in their order. An empty name is malformed, and a macro that
stands for its own name replaces nothing and has no rule. -/
def ofEntries (mode : MatchMode) : List (Text × Text) → Except BrewError (List Rule)
  | [] => .ok []
  | (name, value) :: entries =>
    if name.isEmpty then .error (.malformedDeclaration (':' :: value))
    else if name = value then ofEntries mode entries
    else match ofMacro mode name value with
      | .error e => .error e
      | .ok rule => (ofEntries mode entries).map (rule :: ·)

def successors (rules : List Rule) (rule : Rule) : List Rule :=
  rules.filter fun next => next.matcher.hits rule.value

/-- The names along a cycle of rules, if some macro can reach itself through values. -/
def findCycle (rules : List Rule) : Option (List Text) :=
  (Graph.findCycle rules (successors rules)).map (List.map name)

end Rule

/-- A replacement within a pass: the name, and how often it occurred. -/
structure Substitution where
  name : Text
  count : Nat
  deriving DecidableEq, Repr

/-- A text after a pass, with the replacements that led to it. -/
structure Pass where
  text : Text
  substitutions : List Substitution
  deriving DecidableEq, Repr

namespace Pass

def run : List Rule → Text → Pass
  | [], text => ⟨text, []⟩
  | rule :: rules, text =>
    let count := rule.matcher.count text
    if count = 0 then run rules text
    else
      let rest := run rules (rule.matcher.replace rule.value text)
      ⟨rest.text, ⟨rule.name, count⟩ :: rest.substitutions⟩

/-- The names that were replaced, in the order of the rules. -/
def names (pass : Pass) : List Text := pass.substitutions.map Substitution.name

def isIdle (pass : Pass) : Bool := pass.substitutions.isEmpty

end Pass

/-- A text in which no macro is left, and the passes it took: the last one replaced nothing. -/
structure Expansion where
  text : Text
  passes : Nat
  deriving DecidableEq, Repr

structure Expander where
  rules : List Rule
  maxPasses : Nat

namespace Expander

/-- Prepare a table. At least one pass is allowed on top of one for each rule; their number is a
machine word, so that a sum which does not fit starts at zero again. -/
def ofTable (mode : MatchMode) (extraIterations : Nat) (table : MacroTable) :
    Except BrewError Expander :=
  match Rule.ofEntries mode table.entries with
  | .error e => .error e
  | .ok rules =>
    match Rule.findCycle rules with
    | some cycle => .error (.circularDefinition cycle)
    | none => .ok ⟨rules, (rules.length + max extraIterations 1) % UInt64.size⟩

/-- Run passes until one is idle, where `done` have been run, `changed` are the names that the last
of them replaced, and the first argument is the number still allowed. -/
def settle (rules : List Rule) : Nat → Nat → List Text → Text → Except BrewError Expansion
  | 0, done, changed, _ => .error (.nonConvergent done changed)
  | left + 1, done, _, text =>
    let pass := Pass.run rules text
    if pass.isIdle then .ok ⟨pass.text, done + 1⟩
    else settle rules left (done + 1) pass.names pass.text

/-- Run passes over a text until one finds no macro name left. -/
def expand (expander : Expander) (text : Text) : Except BrewError Expansion :=
  settle expander.rules expander.maxPasses 0 [] text

def settlingPasses (rules : List Rule) : Nat → Text → List Pass
  | 0, _ => []
  | left + 1, text =>
    let pass := Pass.run rules text
    if pass.isIdle then [] else pass :: settlingPasses rules left pass.text

/-- The passes that replaced something while a text was expanded. -/
def passes (expander : Expander) (text : Text) : List Pass :=
  settlingPasses expander.rules expander.maxPasses text

end Expander

def defaultExtraIterations : Nat := 2

/-- Expand with whole-word matching and the usual number of extra passes. -/
def expand (table : MacroTable) (text : Text) : Except BrewError Expansion :=
  match Expander.ofTable .wordBoundary defaultExtraIterations table with
  | .error e => .error e
  | .ok expander => expander.expand text

end GrammarBrew
