/-!
Binary floating-point numbers of 64 bits, as exact numbers: a mantissa below `2 ^ 53` times a power
of two. A decimal number is read as the nearest of them, a tie as the one with the even mantissa.
-/

set_option autoImplicit false
set_option relaxedAutoImplicit false

namespace GrammarBrew

inductive Binary64 where
  | finite (negative : Bool) (mantissa : Nat) (exponent : Int)
  | infinite (negative : Bool)
  | nan
  deriving DecidableEq, Repr

namespace Binary64

def leastExponent : Int := -1074

def greatestExponent : Int := 971

def zero (negative : Bool) : Binary64 := finite negative 0 leastExponent

/-- A quotient rounded to the nearest natural number, a tie to the even one. -/
def roundEven (num den : Nat) : Nat :=
  let twice := 2 * (num % den)
  if twice < den then num / den
  else if den < twice then num / den + 1
  else num / den + num / den % 2

/-- A quotient divided by a power of a base, again as a quotient. -/
def scaleDown (base num den : Nat) (exponent : Int) : Nat × Nat :=
  if 0 ≤ exponent then (num, den * base.pow exponent.toNat)
  else (num * base.pow (-exponent).toNat, den)

/-- The exponent with which a positive quotient has a mantissa of 53 bits, or the least exponent. -/
def exponentOf (num den : Nat) : Int :=
  let guess : Int := (num.log2 : Int) - den.log2 - 52
  let (n, d) := scaleDown 2 num den guess
  max (if n < d * Nat.pow 2 52 then guess - 1 else guess) leastExponent

def ofRatio (negative : Bool) (num den : Nat) : Binary64 :=
  if num = 0 then zero negative
  else
    let exponent := exponentOf num den
    let (n, d) := scaleDown 2 num den exponent
    let mantissa := roundEven n d
    let carried := mantissa == Nat.pow 2 53
    let exponent := if carried then exponent + 1 else exponent
    if greatestExponent < exponent then infinite negative
    else finite negative (if carried then Nat.pow 2 52 else mantissa) exponent

/-- The decimal places beyond which a number is surely zero or infinite. -/
def decimalReach : Int := 400

def ofDecimal (negative : Bool) (digits : Nat) (exponent : Int) : Binary64 :=
  let size : Int := (Nat.toDigits 10 digits).length
  if digits = 0 ∨ size + exponent < -decimalReach then zero negative
  else if decimalReach < size + exponent then infinite negative
  else
    let (num, den) := scaleDown 10 digits 1 (-exponent)
    ofRatio negative num den

/-- The nearest natural number up to `greatest`, half a unit counting as one more. What lies below
zero, and what is no number, counts as zero. -/
def toNat (greatest : Nat) : Binary64 → Nat
  | finite false mantissa exponent =>
    let (num, den) := scaleDown 2 mantissa 1 (-exponent)
    min greatest ((2 * num + den) / (2 * den))
  | infinite false => greatest
  | _ => 0

example : ofDecimal false 15 (-1) = finite false (3 * 2 ^ 51) (-52) := by decide +kernel
example : ofDecimal false 1 400 = infinite false := by decide +kernel
example : (ofDecimal false 25 (-1)).toNat 9 = 3 := by decide +kernel

end Binary64

end GrammarBrew
