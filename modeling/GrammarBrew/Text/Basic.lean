/-!
Text as a list of Unicode scalar values, and where one text stands in another. The scan of `cut`
meets the leftmost occurrence first.
-/

set_option autoImplicit false
set_option relaxedAutoImplicit false

namespace GrammarBrew

abbrev Text := List Char

namespace Text

/-- The decimal digits of a number, most significant first. -/
def ofNat (n : Nat) : Text := Nat.toDigits 10 n

/-- Continue `cut` in a text of which the characters `seen`, latest first, have been passed. -/
def cutFrom (mark seen : Text) : Text → Option (Text × Text)
  | [] => if mark.isEmpty then some (seen.reverse, []) else none
  | c :: rest =>
    match mark.isPrefixOf? (c :: rest) with
    | some after => some (seen.reverse, after)
    | none => cutFrom mark (c :: seen) rest

/-- What stands before and after the leftmost occurrence of `mark` in a text. -/
def cut (mark text : Text) : Option (Text × Text) := cutFrom mark [] text

/-- Put `separator` between the parts of a list and run them together. -/
def join (separator : Text) (parts : List Text) : Text := separator.intercalate parts

/-- Split at every occurrence of one character, the empty parts kept. -/
def splitOn (mark : Char) (text : Text) : List Text :=
  text.foldr (fun c parts =>
    if c = mark then [] :: parts
    else match parts with
      | [] => [[c]]
      | part :: others => (c :: part) :: others) [[]]

def endsWith (text mark : Text) : Bool := mark.isSuffixOf text

example : cut ['-'] ['a', '-', 'b', '-'] = some (['a'], ['b', '-']) := by decide
example : splitOn '/' ['a', '/', '/', 'b'] = [['a'], [], ['b']] := by decide

end Text

end GrammarBrew
