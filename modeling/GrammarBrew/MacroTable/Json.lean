import GrammarBrew.MacroTable.Basic

/-!
A macro table as a JSON object of strings, in name order: on one line without blanks, or one entry a
line with two blanks before it.
-/

set_option autoImplicit false
set_option relaxedAutoImplicit false

namespace GrammarBrew.MacroTable

/-- A number below 256 in two lower-case hexadecimal digits. -/
def hexByte (n : Nat) : Text := [Nat.digitChar (n / 16 % 16), Nat.digitChar (n % 16)]

/-- A character inside a JSON string: only the quote, the backslash and the controls below the space
are escaped, five of them by a letter. -/
def jsonChar (c : Char) : Text :=
  if c = '"' then ['\\', '"']
  else if c = '\\' then ['\\', '\\']
  else if c = '\x08' then ['\\', 'b']
  else if c = '\x0c' then ['\\', 'f']
  else if c = '\n' then ['\\', 'n']
  else if c = '\r' then ['\\', 'r']
  else if c = '\t' then ['\\', 't']
  else if c < ' ' then ['\\', 'u', '0', '0'] ++ hexByte c.toNat
  else [c]

def jsonString (text : Text) : Text := '"' :: text.flatMap jsonChar ++ ['"']

/-- One entry of a JSON object, with `colon` between name and value. -/
def jsonEntry (colon : Text) (entry : Text × Text) : Text :=
  jsonString entry.1 ++ colon ++ jsonString entry.2

def compactJson (table : MacroTable) : Text :=
  '\x7b' :: Text.join [','] (table.entries.map (jsonEntry [':'])) ++ ['\x7d']

/-- The table as a JSON object with one entry a line; an empty one stays on one line. -/
def prettyJson (table : MacroTable) : Text :=
  if table.isEmpty then ['\x7b', '\x7d']
  else
    let lines := table.entries.map fun entry => ' ' :: ' ' :: jsonEntry [':', ' '] entry
    '\x7b' :: '\n' :: Text.join [',', '\n'] lines ++ ['\n', '\x7d']

example : jsonString ['\x01', '"'] = ['"', '\\', 'u', '0', '0', '0', '1', '\\', '"', '"'] := by
  decide

end GrammarBrew.MacroTable
