import GrammarBrew.Setting.Basic
import GrammarBrew.Toml.Moment
import GrammarBrew.Toml.Reading

/-!
The values and tables of a document while it is read. Each table knows how it came about, which
decides what may still be added to it: no name gets two values, a header opens a table once, and
dotted keys add only to tables that have no header of their own. A table whose first name is one
kept for moments stands for the moment that its text is.
-/

set_option autoImplicit false
set_option relaxedAutoImplicit false

namespace GrammarBrew.Toml

inductive TableForm where
  | opened
  | passed
  | dotted
  deriving DecidableEq, Repr

inductive Node where
  | value (setting : Setting)
  | moment (text : Text)
  | array (items : List Node)
  | inlineTable (entries : List (Text × Node))
  | table (form : TableForm) (entries : List (Text × Node))
  | rows (tables : List Node)
  deriving Inhabited

namespace Node

def momentName : Text := "$__toml_private_datetime".toList

/-- The moment that a table with these entries stands for, if its first name says that it does. -/
def moment? : List (Text × Node) → Option (Except Fault Setting)
  | (name, node) :: _ =>
    if name = momentName then
      some (match node with
        | value (.text text) =>
          match Toml.moment? true text with
          | some shown => .ok (.text shown)
          | none => .error .badValue
        | _ => .error .badValue)
    else none
  | [] => none

mutual

def toSetting : Node → Except Fault Setting
  | value setting => .ok setting
  | moment text => .ok (.text text)
  | array items => (rowsToSettings items).map Setting.list
  | inlineTable entries => (moment? entries).getD ((entriesToSettings entries).map Setting.table)
  | table _ entries => (moment? entries).getD ((entriesToSettings entries).map Setting.table)
  | rows tables => (rowsToSettings tables).map fun settings => .list settings.reverse

def entriesToSettings : List (Text × Node) → Except Fault (List (Text × Setting))
  | [] => .ok []
  | (name, node) :: rest => do
    let setting ← node.toSetting
    return (name, setting) :: (← entriesToSettings rest)

def rowsToSettings : List Node → Except Fault (List Setting)
  | [] => .ok []
  | node :: rest => do
    let setting ← node.toSetting
    return setting :: (← rowsToSettings rest)

end

end Node

structure Table where
  form : TableForm
  entries : List (Text × Node)

namespace Table

def empty : Table := ⟨.opened, []⟩

def toNode (table : Table) : Node := .table table.form table.entries

def toSetting (table : Table) : Except Fault Setting := table.toNode.toSetting

def alter (change : Option Node → Except Fault Node) (name : Text) :
    List (Text × Node) → Except Fault (List (Text × Node))
  | [] => (change none).map fun node => [(name, node)]
  | (other, node) :: rest =>
    if other = name then (change (some node)).map fun node => (name, node) :: rest
    else (alter change name rest).map ((other, node) :: ·)

/-- Change the table that a path of names leads to; tables that are missing come about on the way.
Of tables with one header in common the path leads to the latest. -/
def descend (form : TableForm) (change : Table → Except Fault Table) :
    List Text → Table → Except Fault Table
  | [], table => change table
  | name :: path, table => do
    let inside (form' : TableForm) (entries : List (Text × Node)) : Except Fault Node :=
      (descend form change path ⟨form', entries⟩).map toNode
    let entries ← alter (fun node =>
      match node with
      | none => inside form []
      | some (.table found entries) =>
        if form = .dotted ∧ found = .opened then .error (.duplicate name) else inside found entries
      | some (.rows (.table found entries :: earlier)) =>
        (inside found entries).map fun latest => .rows (latest :: earlier)
      | some _ => .error (.notATable name)) name table.entries
    return ⟨table.form, entries⟩

/-- Give a new name a value. A name without dots is not added to a table that dotted keys made, nor
one with dots to a table that headers made. -/
def add (hasDots : Bool) (name : Text) (value : Node) (table : Table) : Except Fault Table := do
  if decide (table.form = .dotted) != hasDots then throw (.duplicate name)
  let entries ← alter (fun node =>
    match node with
    | none => .ok value
    | some _ => .error (.duplicate name)) name table.entries
  return ⟨table.form, entries⟩

/-- Add a value below a table, along a dotted key given by its last name and those before it. -/
def addAlong (path : List Text) (name : Text) (value : Node) (table : Table) :
    Except Fault Table :=
  descend .dotted (add (!path.isEmpty) name value) path table

/-- Open a table by its header. A table that stood on the way to another header moves behind the
names that came after it. -/
def openTable (path : List Text) (name : Text) (root : Table) : Except Fault Table :=
  descend .passed (fun table =>
    let others := table.entries.filter fun entry => entry.1 != name
    match table.entries.lookup name with
    | none => .ok ⟨table.form, others ++ [(name, .table .opened [])]⟩
    | some (.table .passed entries) => .ok ⟨table.form, others ++ [(name, .table .opened entries)]⟩
    | some _ => .error (.duplicate name)) path root

def openRow (path : List Text) (name : Text) (root : Table) : Except Fault Table :=
  descend .passed (fun table => do
    let entries ← alter (fun node =>
      match node with
      | none => .ok (.rows [.table .opened []])
      | some (.rows tables) => .ok (.rows (.table .opened [] :: tables))
      | some _ => .error (.duplicate name)) name table.entries
    return ⟨table.form, entries⟩) path root

end Table

end GrammarBrew.Toml
