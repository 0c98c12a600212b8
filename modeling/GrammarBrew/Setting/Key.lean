import GrammarBrew.Setting.Basic

/-!
Keys: where a single setting stands, as `table.name` or `list[index]`. Setting a value makes the
tables and lists along the way where there are none.
-/

set_option autoImplicit false
set_option relaxedAutoImplicit false

namespace GrammarBrew.Setting

inductive Step where
  | child (name : Text)
  | item (index : Int)
  deriving DecidableEq, Repr

/-- A way from the whole configuration to one setting. -/
structure Key where
  first : Text
  steps : List Step := []
  deriving DecidableEq, Repr

namespace Key

def isNameChar (c : Char) : Bool :=
  c.isAlphanum || c == ' ' || c == '_' || c == '-'

/-- Whether a character may stand around an index: the space and the tabulator. -/
def isPadding (c : Char) : Bool := c == ' ' || c == '\t'

def unpadded (text : Text) : Text :=
  ((text.dropWhile isPadding).reverse.dropWhile isPadding).reverse

def index? (text : Text) : Option Int :=
  let spelled := unpadded text
  let digits := if spelled.head? = some '-' then spelled.tail else spelled
  match count? digits with
  | some n =>
    if digits.head? = some '+' ∨ Nat.pow 2 63 ≤ n then none
    else some (if spelled.head? = some '-' then -(n : Int) else n)
  | none => none

/-- Read the steps of a key. `name` is the name that is being read, backwards, and `inside` tells
whether it is an index. -/
def stepsFrom : Bool → Text → Text → Option (List Step)
  | true, _, [] => none
  | false, name, [] => if name.isEmpty then none else some [.child name.reverse]
  | true, name, c :: rest =>
    if c = ']' then
      match index? name.reverse, rest with
      | none, _ => none
      | some index, [] => some [.item index]
      | some index, mark :: rest =>
        if mark = '.' then (stepsFrom false [] rest).map (.item index :: ·)
        else if mark = '[' then (stepsFrom true [] rest).map (.item index :: ·)
        else none
    else stepsFrom true (c :: name) rest
  | false, name, c :: rest =>
    if isNameChar c then stepsFrom false (c :: name) rest
    else if name.isEmpty then none
    else if c = '.' then (stepsFrom false [] rest).map (.child name.reverse :: ·)
    else if c = '[' then (stepsFrom true [] rest).map (.child name.reverse :: ·)
    else none

def parse? (text : Text) : Option Key :=
  match stepsFrom false [] text with
  | some (.child first :: steps) => some ⟨first, steps⟩
  | _ => none

/-- The key that a text spells, or else the name that it is. -/
def ofText (text : Text) : Key := (parse? text).getD ⟨text, []⟩

end Key

/-- Change the item at a place; a list that is too short is filled up with nothing. -/
def alterItem (change : Setting → Setting) : Nat → List Setting → List Setting
  | 0, [] => [change null]
  | 0, item :: rest => change item :: rest
  | place + 1, [] => null :: alterItem change place []
  | place + 1, item :: rest => item :: alterItem change place rest

/-- Change the item at an index, from the end if it is negative; a list that is too short is filled
up with nothing at the end that the index lies beyond. -/
def alterIndex (change : Setting → Setting) (index : Int) (items : List Setting) : List Setting :=
  if 0 ≤ index then alterItem change index.toNat items
  else
    let missing := index.natAbs - items.length
    alterItem change (items.length - index.natAbs) (List.replicate missing null ++ items)

/-- Set a value some steps below a setting. What stands in the way gives way. -/
def assignBelow (value : Setting) : List Step → Setting → Setting
  | [], _ => value
  | [.child name], setting => setting.put name value
  | .child name :: steps, setting =>
    setting.alter (fun old => assignBelow value steps (old.getD null)) name
  | .item index :: steps, setting =>
    list (alterIndex (assignBelow value steps) index setting.items)

def assign (setting : Setting) (key : Key) (value : Setting) : Setting :=
  assignBelow value (.child key.first :: key.steps) setting

example : Key.parse? "a.b c".toList = some ⟨['a'], [.child "b c".toList]⟩ := by decide
example : Key.parse? "a[-1].b".toList = some ⟨['a'], [.item (-1), .child ['b']]⟩ := by
  decide +kernel
example : Key.parse? "a[ 0\t]".toList = some ⟨['a'], [.item 0]⟩ := by decide +kernel
example : Key.parse? "a.".toList = none := by decide

end GrammarBrew.Setting
