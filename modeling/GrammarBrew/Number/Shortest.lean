import GrammarBrew.Number.Binary64
import GrammarBrew.Text.Basic

/-!
Floating-point numbers as decimal text: the fewest digits that read back as the same number, and of
those the nearest to it. The text is always positional, and a whole number has no point.
-/

set_option autoImplicit false
set_option relaxedAutoImplicit false

namespace GrammarBrew.Binary64

/-- A positive number between the ends of the interval of what reads as it, all over one
denominator. -/
structure Interval where
  low : Nat
  value : Nat
  high : Nat
  den : Nat
  closed : Bool

/-- What reads as `mantissa * 2 ^ exponent`. Below a power of two numbers lie closer. -/
def interval (mantissa : Nat) (exponent : Int) : Interval :=
  let below := if mantissa = Nat.pow 2 52 ∧ leastExponent < exponent then 1 else 2
  let (unit, den) := scaleDown 2 1 1 (2 - exponent)
  ⟨(4 * mantissa - below) * unit, 4 * mantissa * unit, (4 * mantissa + 2) * unit, den,
    mantissa % 2 == 0⟩

/-- The multiple of `10 ^ place` nearest to a number among those that read as it, counted in that
unit; a tie goes up. -/
def onGrid (within : Interval) (place : Int) : Option Nat :=
  let unit := if 0 ≤ place then within.den * Nat.pow 10 place.toNat else within.den
  let scale := if 0 ≤ place then 1 else Nat.pow 10 (-place).toNat
  let holds (n : Nat) : Bool :=
    if within.closed then
      decide (within.low * scale ≤ n * unit) && decide (n * unit ≤ within.high * scale)
    else decide (within.low * scale < n * unit) && decide (n * unit < within.high * scale)
  let down := within.value * scale / unit
  let nearerDown := decide (2 * (within.value * scale % unit) < unit)
  if holds down && (nearerDown || !holds (down + 1)) then some down
  else if holds (down + 1) then some (down + 1)
  else none

/-- The coarsest grid from `place` on down that holds what reads as a number; seventeen digits
always do, so twenty steps are enough. -/
def coarsest (within : Interval) : Nat → Int → Nat × Int
  | 0, place => (within.value / within.den, place)
  | steps + 1, place =>
    match onGrid within place with
    | some n => (n, place)
    | none => coarsest within steps (place - 1)

def placeAbove (within : Interval) : Int :=
  if within.den ≤ within.value then (Nat.toDigits 10 (within.value / within.den)).length
  else 2 - (Nat.toDigits 10 (within.den / within.value)).length

def positional (n : Nat) (place : Int) : Text :=
  let digits := Text.ofNat n
  if 0 ≤ place then digits ++ List.replicate place.toNat '0'
  else
    let fraction := (-place).toNat
    if fraction < digits.length then
      digits.take (digits.length - fraction) ++ '.' :: digits.drop (digits.length - fraction)
    else '0' :: '.' :: List.replicate (fraction - digits.length) '0' ++ digits

def signed (negative : Bool) (text : Text) : Text := if negative then '-' :: text else text

def toText : Binary64 → Text
  | nan => ['N', 'a', 'N']
  | infinite negative => signed negative ['i', 'n', 'f']
  | finite negative mantissa exponent =>
    if mantissa = 0 then signed negative ['0']
    else
      let within := interval mantissa exponent
      let (n, place) := coarsest within 20 (placeAbove within)
      signed negative (positional n place)

example : (ofDecimal false 15 (-1)).toText = ['1', '.', '5'] := by decide +kernel
example : (ofDecimal true 1 21).toText = "-1000000000000000000000".toList := by decide +kernel
example : (ofDecimal false 1 (-7)).toText = "0.0000001".toList := by decide +kernel
example : (zero true).toText = ['-', '0'] := by decide +kernel

end GrammarBrew.Binary64
