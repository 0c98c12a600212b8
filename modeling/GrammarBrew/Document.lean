import GrammarBrew.Text.Basic

/-!
A grammar document carries its rules first and, after a separator line, the table of its macros.
Only a document with exactly one separator has a macro section: with none, or with several, all of
it is rules.
-/

set_option autoImplicit false
set_option relaxedAutoImplicit false

namespace GrammarBrew

structure Document where
  /-- The grammar rules, in which macro names stand for their values. -/
  body : Text
  declarations? : Option Text
  deriving DecidableEq, Repr

namespace Document

def hasMacros (document : Document) : Bool := document.declarations?.isSome

def plain (text : Text) : Document := ⟨text, none⟩

/-- Cut a text at its one separator. The separator of a second cut may not overlap the first; an
empty separator stands nowhere. -/
def split (separator text : Text) : Document :=
  if separator.isEmpty then plain text
  else match Text.cut separator text with
    | none => plain text
    | some (body, rest) =>
      match Text.cut separator rest with
      | none => ⟨body, some rest⟩
      | some _ => plain text

example : split ['#'] ['a', '#', 'b'] = ⟨['a'], some ['b']⟩ := by decide
example : split ['#'] ['#', 'a', '#'] = plain ['#', 'a', '#'] := by decide
example : split [] ['a'] = plain ['a'] := by decide

end Document

end GrammarBrew
