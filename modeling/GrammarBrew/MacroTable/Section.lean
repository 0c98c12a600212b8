import GrammarBrew.Declaration
import GrammarBrew.MacroTable.Basic

/-!
The macro section of a document: declarations that end in a semicolon and a line break. The break
may be a line feed or a carriage return with a line feed. The last declaration may end in a
semicolon alone or in nothing.
-/

set_option autoImplicit false
set_option relaxedAutoImplicit false

namespace GrammarBrew.MacroTable

/-- Split at the terminators, where the characters `seen`, latest first, begin the current
fragment. -/
def fragmentsFrom (seen : Text) : Text → List Text
  | [] => [seen.reverse]
  | ';' :: '\n' :: rest => seen.reverse :: fragmentsFrom [] rest
  | ';' :: '\r' :: '\n' :: rest => seen.reverse :: fragmentsFrom [] rest
  | c :: rest => fragmentsFrom (c :: seen) rest

/-- The text between the terminators; there is one fragment more than terminators. -/
def fragments (text : Text) : List Text := fragmentsFrom [] text

/-- The last fragment, trimmed, without the one semicolon that may close it. -/
def dropClosing (fragment : Text) : Text :=
  match fragment.reverse with
  | ';' :: rest => Text.trimEnd rest.reverse
  | _ => Text.trimEnd fragment

/-- Add the declarations of the fragments to a table, blank ones left out. The first that is
malformed fails them all, and a later value of a name replaces an earlier one. -/
def addFragments (table : MacroTable) : List Text → Except BrewError MacroTable
  | [] => .ok table
  | fragment :: rest =>
    let trimmed := Text.trim fragment
    let declared := if rest.isEmpty then dropClosing trimmed else trimmed
    if declared.isEmpty then addFragments table rest
    else match Declaration.parse declared with
      | .error e => .error e
      | .ok (name, value) => addFragments (table.insert name value) rest

def parse (text : Text) : Except BrewError MacroTable := addFragments empty (fragments text)

example : fragments ['A', ';', '\r', '\n', 'B', ';'] = [['A'], ['B', ';']] := by decide
example : (parse ['A', ':', '1', ';', '\n', 'A', ':', '2', ' ', ';']).toOption.map entries
    = some [(['A'], ['2'])] := by rfl

end GrammarBrew.MacroTable
