import GrammarBrew.Number.Shortest
import GrammarBrew.Text.Class

/-!
Settings: values by name, as configuration files give them. Names count without regard to the case
of their ASCII letters. A table laid over another one merges into it, deep down; any other value
replaces what was there. Where a text or a count is asked for, other plain values stand for one.
-/

set_option autoImplicit false
set_option relaxedAutoImplicit false

namespace GrammarBrew

def Text.lower (text : Text) : Text := text.map Char.toLower

inductive Setting where
  | null
  | boolean (value : Bool)
  | integer (value : Int)
  | float (value : Binary64)
  | text (value : Text)
  | list (items : List Setting)
  | table (entries : List (Text × Setting))
  deriving Repr, Inhabited

namespace Setting

def entries : Setting → List (Text × Setting)
  | table entries => entries
  | _ => []

def items : Setting → List Setting
  | list items => items
  | _ => []

def get? (setting : Setting) (name : Text) : Option Setting := setting.entries.lookup name

/-- Change the value under a name, which stands for nothing where the name is new. -/
def alterEntry (change : Option Setting → Setting) (name : Text) :
    List (Text × Setting) → List (Text × Setting)
  | [] => [(name, change none)]
  | (other, value) :: rest =>
    if other = name then (name, change (some value)) :: rest
    else (other, value) :: alterEntry change name rest

/-- Change the value under a name; what is no table becomes one. -/
def alter (change : Option Setting → Setting) (name : Text) (setting : Setting) : Setting :=
  table (alterEntry change name.lower setting.entries)

mutual

def put (setting : Setting) (name : Text) : Setting → Setting
  | table incoming => setting.alter (fun old => putAll (old.getD (table [])) incoming) name
  | null => setting.alter (fun _ => null) name
  | boolean value => setting.alter (fun _ => boolean value) name
  | integer value => setting.alter (fun _ => integer value) name
  | float value => setting.alter (fun _ => float value) name
  | text value => setting.alter (fun _ => text value) name
  | list items => setting.alter (fun _ => list items) name

/-- Lay values by name over a setting, one after the other. -/
def putAll (setting : Setting) : List (Text × Setting) → Setting
  | [] => setting
  | (name, value) :: rest => putAll (put setting name value) rest

end

def asText? : Setting → Option Text
  | text value => some value
  | boolean value => some (if value then "true".toList else "false".toList)
  | integer value => some (Binary64.signed (decide (value < 0)) (Text.ofNat value.natAbs))
  | float value => some value.toText
  | _ => none

def greatestCount : Nat := Nat.pow 2 64 - 1

/-- The natural number that decimal digits spell, after a plus sign if there is one. -/
def count? (text : Text) : Option Nat :=
  let digits := if text.head? = some '+' then text.tail else text
  if digits.isEmpty || !digits.all Text.isAsciiDigit then none
  else
    let n := digits.foldl (fun n c => 10 * n + (c.toNat - '0'.toNat)) 0
    if n ≤ greatestCount then some n else none

def yesWords : List Text := ["true".toList, "on".toList, "yes".toList]

def noWords : List Text := ["false".toList, "off".toList, "no".toList]

/-- What a value says where a count is asked for. Fractions are rounded, a half away from zero. -/
def asCount? : Setting → Option Nat
  | text value =>
    if yesWords.contains value.lower then some 1
    else if noWords.contains value.lower then some 0
    else count? value
  | boolean value => some value.toNat
  | integer value => if 0 ≤ value then some value.toNat else none
  | float value => some (value.toNat greatestCount)
  | _ => none

end Setting

end GrammarBrew
