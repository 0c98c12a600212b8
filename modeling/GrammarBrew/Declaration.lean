import GrammarBrew.BrewError

/-!
One macro declaration, `name: value`. Layout whitespace carries no meaning outside single quotes; a
quote opens or closes a literal and is always kept. The first colon ends the name.
-/

set_option autoImplicit false
set_option relaxedAutoImplicit false

namespace GrammarBrew.Declaration

/-- Drop the blanks that stand outside single quotes; `inQuotes` tells where the text begins. -/
def stripFrom (inQuotes : Bool) : Text → Text
  | [] => []
  | c :: rest =>
    if Text.isBlank c then
      if inQuotes then c :: stripFrom inQuotes rest else stripFrom inQuotes rest
    else c :: stripFrom (if c = '\'' then !inQuotes else inQuotes) rest

/-- The declaration without layout: trimmed, then without the blanks outside single quotes. -/
def strip (fragment : Text) : Text := stripFrom false (Text.trim fragment)

/-- Cut a stripped declaration at its first colon into a name, which may not be empty, and a
value. -/
def cutName? (stripped : Text) : Option (Text × Text) :=
  match Text.cut [':'] stripped with
  | some (name, value) => if name.isEmpty then none else some (name, value)
  | none => none

def parse (fragment : Text) : Except BrewError (Text × Text) :=
  match cutName? (strip fragment) with
  | some entry => .ok entry
  | none => .error (.malformedDeclaration (Text.trim fragment))

example : strip [' ', 'A', ' ', ':', '\'', ' ', '\'', '\n'] = ['A', ':', '\'', ' ', '\''] := by
  decide
example : parse ['A', ':', ':'] = .ok (['A'], [':']) := by rfl
example : parse [':', 'x', ' '] = .error (.malformedDeclaration [':', 'x']) := by rfl

end GrammarBrew.Declaration
