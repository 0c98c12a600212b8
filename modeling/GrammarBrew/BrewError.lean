import GrammarBrew.Text.Quoted

/-!
Why a document cannot be brewed, and the one-line message for each cause.
-/

set_option autoImplicit false
set_option relaxedAutoImplicit false

namespace GrammarBrew

/-- A cause for which brewing stops without a result. -/
inductive BrewError where
  | malformedDeclaration (fragment : Text)
  | invalidName (name reason : Text)
  /-- A macro that reaches itself through values; the first name of the cycle is repeated as the
  last. -/
  | circularDefinition (cycle : List Text)
  | nonConvergent (passes : Nat) (lastChanged : List Text)
  deriving DecidableEq, Repr

namespace BrewError

def message : BrewError → Text
  | malformedDeclaration fragment =>
    "Malformed macro declaration (expected `name: value`): ".toList ++ Text.quoted fragment
  | invalidName name reason =>
    "Invalid macro name ".toList ++ Text.quoted name ++ ": ".toList ++ reason
  | circularDefinition cycle =>
    "Circular macro definition, expansion would never settle: ".toList
      ++ Text.join " -> ".toList cycle
  | nonConvergent passes lastChanged =>
    "Macro expansion did not settle after ".toList ++ Text.ofNat passes
      ++ " passes; still rewriting: ".toList ++ Text.join ", ".toList lastChanged
      ++ " (circular macro definition?)".toList

end BrewError

end GrammarBrew
