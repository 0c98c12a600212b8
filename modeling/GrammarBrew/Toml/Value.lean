import GrammarBrew.Toml.Node
import GrammarBrew.Toml.Number

/-!
Keys and values. A key is a name, or names with dots between them. Arrays may run over lines and end
in a comma, inline tables may not.
-/

set_option autoImplicit false
set_option relaxedAutoImplicit false

namespace GrammarBrew.Toml

open Read

def isBareChar (c : Char) : Bool := c.isAlphanum || c == '_' || c == '-'

def readName : Read Text := do
  match ← peek with
  | some '"' => readLineString '"'
  | some '\'' => readLineString '\''
  | _ =>
    let name ← takeWhile isBareChar
    if name.isEmpty then fail .badKey else return name

/-- Read a key as its last name and those before it, backwards; the bound is one of depth. -/
def readNames : Nat → List Text → Read (List Text × Text)
  | 0, _ => fail .tooDeep
  | room + 1, before => do
    skipSpaces
    let name ← readName
    skipSpaces
    if ← takeIf ['.'] then readNames room (name :: before) else return (before.reverse, name)

def readKey : Read (List Text × Text) := readNames (depthLimit - 1) []

def isPlainChar (c : Char) : Bool :=
  c.isAlphanum || c == '+' || c == '-' || c == '_' || c == '.' || c == ':'

def plain? (token : Text) : Option Node :=
  if token = "true".toList then some (.value (.boolean true))
  else if token = "false".toList then some (.value (.boolean false))
  else match moment? false token with
    | some moment => some (.moment moment)
    | none =>
      match integer? token with
      | some n => some (.value (.integer n))
      | none => (float? token).map fun x => .value (.float x)

/-- Read a value without quotes. After a date a blank may stand before its time. -/
def readPlain : Read Node := do
  let token ← takeWhile isPlainChar
  let rest ← get
  let whole ←
    if Moment.isDate token && rest.head? == some ' ' && Moment.beginsTime rest.tail then do
      let _ ← takeIf [' ']
      pure (token ++ ' ' :: (← takeWhile isPlainChar))
    else pure token
  match plain? whole with
  | some node => return node
  | none => fail .badValue

mutual

/-- Read a value. The first bound is one of length, the second one of depth. -/
def readValue : Nat → Nat → Read Node
  | 0, _ => fail .unfinished
  | fuel + 1, room => do
    match ← peek with
    | some '"' => return .value (.text (← readString '"'))
    | some '\'' => return .value (.text (← readString '\''))
    | some '[' =>
      if room ≤ 1 then fail .tooDeep
      expect ['[']
      skipFiller
      if ← takeIf [']'] then return .array []
      return .array (← readItems fuel (room - 1) [])
    | some '\x7b' =>
      if room ≤ 1 then fail .tooDeep
      expect ['\x7b']
      skipSpaces
      if ← takeIf ['\x7d'] then return .inlineTable []
      return .inlineTable (← readPairs fuel (room - 1) Table.empty).entries
    | _ => readPlain

/-- Read the items of an array up to its end; `before` are those read so far, backwards. -/
def readItems : Nat → Nat → List Node → Read (List Node)
  | 0, _, _ => fail .unfinished
  | fuel + 1, room, before => do
    let item ← readValue fuel room
    skipFiller
    if ← takeIf [','] then
      skipFiller
      if ← takeIf [']'] then return (item :: before).reverse
      readItems fuel room (item :: before)
    else
      expect [']']
      return (item :: before).reverse

/-- Read the pairs of an inline table up to its end, and add them to a table. -/
def readPairs : Nat → Nat → Table → Read Table
  | 0, _, _ => fail .unfinished
  | fuel + 1, room, table => do
    let (path, name) ← readKey
    expect ['=']
    skipSpaces
    let value ← readValue fuel room
    skipSpaces
    match table.addAlong path name value with
    | .error fault => fail fault
    | .ok table =>
      if ← takeIf [','] then readPairs fuel room table
      else
        expect ['\x7d']
        return table

end

end GrammarBrew.Toml
