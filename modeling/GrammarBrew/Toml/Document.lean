import GrammarBrew.Toml.Value

/-!
Whole documents: lines of keys with their values, below the headers of tables. A byte order mark at
the front counts for nothing.
-/

set_option autoImplicit false
set_option relaxedAutoImplicit false

namespace GrammarBrew.Toml

open Read

/-- A document while it is read: all of it, and the header that the next lines stand under. -/
structure Reader where
  root : Table
  header : List Text

namespace Reader

def settle (root : Except Fault Table) (header : List Text) : Read Reader :=
  match root with
  | .ok root => return ⟨root, header⟩
  | .error fault => fail fault

def readHeader (reader : Reader) : Read Reader := do
  let isRow ← takeIf ['[', '[']
  if !isRow then expect ['[']
  let (path, name) ← readKey
  expect (if isRow then [']', ']'] else [']'])
  finishLine
  settle (if isRow then reader.root.openRow path name else reader.root.openTable path name)
    (path ++ [name])

def readPair (reader : Reader) : Read Reader := do
  let (path, name) ← readKey
  expect ['=']
  skipSpaces
  let value ← readValue (2 * (← get).length + 2) depthLimit
  finishLine
  settle (reader.root.descend .passed (fun table => table.addAlong path name value) reader.header)
    reader.header

/-- Read line after line. Each takes a character at least, so there are no more of them than the
text is long. -/
def readLines : Nat → Reader → Read Reader
  | 0, reader => return reader
  | bound + 1, reader => do
    skipSpaces
    match ← peek with
    | none => return reader
    | some '[' => readLines bound (← reader.readHeader)
    | some '#' =>
      finishLine
      readLines bound reader
    | some c =>
      if c = '\n' ∨ c = '\r' then
        finishLine
        readLines bound reader
      else readLines bound (← reader.readPair)

end Reader

def withoutMark (text : Text) : Text := if text.head? = some '\ufeff' then text.tail else text

/-- The table that a document is; one that stands for a moment is none. -/
def parse (text : Text) : Except Fault Setting := do
  let (reader, _) ← (Reader.readLines (text.length + 1) ⟨Table.empty, []⟩).run (withoutMark text)
  match ← reader.root.toSetting with
  | .table entries => return .table entries
  | _ => throw .badValue

end GrammarBrew.Toml
