import GrammarBrew.Toml.Reading

/-!
Quoted strings of the four kinds. Between double quotes a backslash begins an escape, between single
quotes it is a character like any other. Three quotes allow line ends and up to two quotes in a row,
also before the closing three; there a backslash at the end of a line drops the blanks and line ends
up to the next text. Every line end inside a string counts as a line feed.
-/

set_option autoImplicit false
set_option relaxedAutoImplicit false

namespace GrammarBrew.Toml

structure QuotedKind where
  mark : Char
  multiLine : Bool
  deriving DecidableEq, Repr

namespace QuotedKind

def escapes (kind : QuotedKind) : Bool := kind.mark == '"'

end QuotedKind

inductive QuotedState where
  | plain
  | quotes (count : Nat)
  | carriage
  | escape
  | code (left value : Nat)
  | lineBreak
  | lineBreakCarriage
  | dropping
  | droppingCarriage
  deriving DecidableEq, Repr

inductive QuotedStep where
  | next (state : QuotedState) (found : Text)
  | last (found : Text)
  | over (found : Text)
  deriving DecidableEq, Repr

def escaped? (c : Char) : Option Char :=
  [('b', '\x08'), ('t', '\t'), ('n', '\n'), ('f', '\x0c'), ('r', '\r'), ('"', '"'),
    ('\\', '\\')].lookup c

def hexDigit? (c : Char) : Option Nat :=
  if '0' ≤ c ∧ c ≤ '9' then some (c.toNat - '0'.toNat)
  else if 'a' ≤ c ∧ c ≤ 'f' then some (c.toNat - 'a'.toNat + 10)
  else if 'A' ≤ c ∧ c ≤ 'F' then some (c.toNat - 'A'.toNat + 10)
  else none

namespace QuotedKind

def plainStep (kind : QuotedKind) (c : Char) : Except Fault QuotedStep :=
  if c = kind.mark then .ok (if kind.multiLine then .next (.quotes 1) [] else .last [])
  else if c = '\\' ∧ kind.escapes then .ok (.next .escape [])
  else if c = '\n' ∧ kind.multiLine then .ok (.next .plain ['\n'])
  else if c = '\r' ∧ kind.multiLine then .ok (.next .carriage [])
  else if isPrintable c then .ok (.next .plain [c])
  else .error .badString

/-- The same character after others that belong to the string. -/
def plainStepAfter (kind : QuotedKind) (before : Text) (c : Char) : Except Fault QuotedStep :=
  match kind.plainStep c with
  | .ok (.next state found) => .ok (.next state (before ++ found))
  | .ok (.last found) => .ok (.last (before ++ found))
  | .ok (.over found) => .ok (.over (before ++ found))
  | .error fault => .error fault

def step (kind : QuotedKind) (state : QuotedState) (c : Char) : Except Fault QuotedStep :=
  match state with
  | .plain => kind.plainStep c
  | .quotes count =>
    if c = kind.mark then if count = 5 then .error .badString
      else .ok (.next (.quotes (count + 1)) [])
    else if 3 ≤ count then .ok (.over (List.replicate (count - 3) kind.mark))
    else kind.plainStepAfter (List.replicate count kind.mark) c
  | .carriage => if c = '\n' then .ok (.next .plain ['\n']) else .error .badString
  | .escape =>
    match escaped? c with
    | some meant => .ok (.next .plain [meant])
    | none =>
      if c = 'u' then .ok (.next (.code 4 0) [])
      else if c = 'U' then .ok (.next (.code 8 0) [])
      else if !kind.multiLine then .error .badString
      else if isSpace c then .ok (.next .lineBreak [])
      else if c = '\n' then .ok (.next .dropping [])
      else if c = '\r' then .ok (.next .lineBreakCarriage [])
      else .error .badString
  | .code left value =>
    match hexDigit? c with
    | none => .error .badString
    | some digit =>
      let value := 16 * value + digit
      if 1 < left then .ok (.next (.code (left - 1) value) [])
      else if value.isValidChar then .ok (.next .plain [Char.ofNat value])
      else .error .badString
  | .lineBreak =>
    if isSpace c then .ok (.next .lineBreak [])
    else if c = '\n' then .ok (.next .dropping [])
    else if c = '\r' then .ok (.next .lineBreakCarriage [])
    else .error .badString
  | .lineBreakCarriage => if c = '\n' then .ok (.next .dropping []) else .error .badString
  | .dropping =>
    if isSpace c || c == '\n' then .ok (.next .dropping [])
    else if c = '\r' then .ok (.next .droppingCarriage [])
    else kind.plainStep c
  | .droppingCarriage => if c = '\n' then .ok (.next .dropping []) else .error .badString

/-- Read on inside a string. `found` are its characters so far, backwards. -/
def readFrom (kind : QuotedKind) : QuotedState → Text → Text → Except Fault (Text × Text)
  | .quotes count, found, [] =>
    if 3 ≤ count then .ok (found.reverse ++ List.replicate (count - 3) kind.mark, [])
    else .error .unfinished
  | _, _, [] => .error .unfinished
  | state, found, c :: rest =>
    match kind.step state c with
    | .error fault => .error fault
    | .ok (.next state more) => readFrom kind state (more.reverse ++ found) rest
    | .ok (.last more) => .ok (found.reverse ++ more, rest)
    | .ok (.over more) => .ok (found.reverse ++ more, c :: rest)

/-- Read a string whose opening quotes have been taken. A line end right after three quotes does not
belong to it. -/
def readBody (kind : QuotedKind) : Read Text := fun text =>
  kind.readFrom .plain [] (if kind.multiLine then (Read.afterLineEnd? text).getD text else text)

end QuotedKind

def readLineString (mark : Char) : Read Text := do
  Read.expect [mark]
  QuotedKind.readBody ⟨mark, false⟩

def readString (mark : Char) : Read Text := do
  if ← Read.takeIf [mark, mark, mark] then QuotedKind.readBody ⟨mark, true⟩
  else readLineString mark

example : (readString '"' "\"a\\u00e9\" b".toList).toOption = some ("aé".toList, " b".toList) := by
  decide +kernel
example : (readString '"' "\"\"\"\na\"\"\\\n  b\"\"\"\"".toList).toOption
    = some ("a\"\"b\"".toList, []) := by
  decide +kernel
example : (readString '\'' "'\\'".toList).toOption = some (['\\'], []) := by decide +kernel

end GrammarBrew.Toml
