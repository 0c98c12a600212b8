import GrammarBrew.Number.Binary64
import GrammarBrew.Toml.Moment
import GrammarBrew.Toml.Quoted

/-!
Numbers. Single low lines may stand between digits. Integers are decimal with a sign, or
hexadecimal, octal or binary without one, and fit into 64 bits; a decimal integer has no zero at the
front. A number with a fraction or an exponent is a floating-point number, as are infinity and no
number by name.
-/

set_option autoImplicit false
set_option relaxedAutoImplicit false

namespace GrammarBrew.Toml

def digits? (kind : Char → Bool) (text : Text) : Option Text :=
  let groups := Text.splitOn '_' text
  if groups.all fun group => !group.isEmpty && group.all kind then some groups.flatten else none

/-- Decimal digits without a zero at the front, zero itself apart. -/
def whole? (text : Text) : Option Text :=
  match digits? Text.isAsciiDigit text with
  | some digits => if digits.head? = some '0' ∧ text ≠ ['0'] then none else some digits
  | none => none

def splitSign (text : Text) : Bool × Text :=
  match text with
  | [] => (false, [])
  | c :: rest => if c = '-' then (true, rest) else if c = '+' then (false, rest) else (false, text)

def signedBy (negative : Bool) (n : Nat) : Int := if negative then -(n : Int) else n

def fitting? (n : Int) : Option Int :=
  if -0x8000000000000000 ≤ n ∧ n < 0x8000000000000000 then some n else none

def inBase? (base : Nat) (text : Text) : Option Int := do
  let kind (c : Char) : Bool := (hexDigit? c).any fun digit => decide (digit < base)
  let digits ← digits? kind text
  fitting? (digits.foldl (fun n c => base * n + (hexDigit? c).getD 0) 0)

def integer? (text : Text) : Option Int :=
  match text with
  | '0' :: 'x' :: digits => inBase? 16 digits
  | '0' :: 'o' :: digits => inBase? 8 digits
  | '0' :: 'b' :: digits => inBase? 2 digits
  | _ =>
    let (negative, text) := splitSign text
    match whole? text with
    | some digits => fitting? (signedBy negative (ofDigits digits))
    | none => none

def isExponentMark (c : Char) : Bool := c == 'e' || c == 'E'

/-- The exponent that a text spells with its mark; none counts as zero. -/
def exponent? : Text → Option Int
  | [] => some 0
  | _ :: text =>
    let (negative, text) := splitSign text
    (digits? Text.isAsciiDigit text).map fun digits => signedBy negative (ofDigits digits)

/-- The digits of a fraction with its point; none counts as no digits. -/
def fraction? : Text → Option Text
  | [] => some []
  | _ :: text => digits? Text.isAsciiDigit text

/-- The floating-point number that a text spells. One that is too great is refused, one that is too
far below zero is infinite. -/
def float? (text : Text) : Option Binary64 := do
  let (negative, unsigned) := splitSign text
  if unsigned = "inf".toList then some (.infinite negative)
  else if unsigned = "nan".toList then some .nan
  else
    let beforeExponent := unsigned.takeWhile fun c => !isExponentMark c
    let wholePart := beforeExponent.takeWhile fun c => c != '.'
    if wholePart.length = unsigned.length then none
    else
      let digits ← whole? wholePart
      let places ← fraction? (beforeExponent.drop wholePart.length)
      let exponent ← exponent? (unsigned.drop beforeExponent.length)
      let value := Binary64.ofDecimal negative (ofDigits (digits ++ places))
        (exponent - places.length)
      if value = .infinite false then none else some value

example : integer? "-1_000".toList = some (-1000) := by decide +kernel
example : integer? "0x1F".toList = some 31 := by decide +kernel
example : integer? "01".toList = none := by decide +kernel
example : integer? "9223372036854775808".toList = none := by decide +kernel
example : float? "1.5e0".toList = some (.ofDecimal false 15 (-1)) := by decide +kernel
example : float? "1.".toList = none := by decide +kernel

end GrammarBrew.Toml
