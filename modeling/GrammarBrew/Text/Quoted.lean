import GrammarBrew.Text.Class
import GrammarBrew.Text.GraphemeExtend
import GrammarBrew.Text.Unprintable

/-!
Text in double quotes, as error messages show it: what cannot be seen on its own is written by its
code point, and the quoted form has no raw line break.
-/

set_option autoImplicit false
set_option relaxedAutoImplicit false

namespace GrammarBrew.Text

/-- The code point of a character between braces, in lower-case hexadecimal without leading
zeros. -/
def escapeCodePoint (c : Char) : Text :=
  ['\\', 'u', '\x7b'] ++ Nat.toDigits 16 c.toNat ++ ['\x7d']

/-- Whether a character is shown as itself: it has a visible form or is the space, and does not
extend the character before it. -/
def isShown (c : Char) : Bool :=
  c == ' ' || !(inRuns graphemeExtendRuns c.toNat || inRuns unprintableRuns c.toNat)

/-- The quoted form of one character. The single quote stands for itself. -/
def quoteChar (c : Char) : Text :=
  if c = '\x00' then ['\\', '0']
  else if c = '\t' then ['\\', 't']
  else if c = '\r' then ['\\', 'r']
  else if c = '\n' then ['\\', 'n']
  else if c = '"' then ['\\', '"']
  else if c = '\\' then ['\\', '\\']
  else if isShown c then [c]
  else escapeCodePoint c

/-- A text in double quotes, each character in its quoted form. -/
def quoted (text : Text) : Text := '"' :: text.flatMap quoteChar ++ ['"']

example : quoteChar '\x7f' = ['\\', 'u', '\x7b', '7', 'f', '\x7d'] := by decide +kernel
example : quoteChar '\'' = ['\''] := by decide +kernel

end GrammarBrew.Text
