import GrammarBrew.Text.Basic

/-!
A span of time as text: in the greatest of the usual units that it reaches, with three decimal
places, a half counting up.
-/

set_option autoImplicit false
set_option relaxedAutoImplicit false

namespace GrammarBrew.Elapsed

/-- Thousandths of a unit as a number with three decimal places. -/
def thousandths (n : Nat) : Text :=
  let places := Text.ofNat (n % 1000)
  Text.ofNat (n / 1000) ++ '.' :: List.replicate (3 - places.length) '0' ++ places

def inUnit (nanoseconds unit : Nat) (name : String) : Text :=
  thousandths ((2000 * nanoseconds + unit) / (2 * unit)) ++ name.toList

def text (nanoseconds : Nat) : Text :=
  if 1000000000 ≤ nanoseconds then inUnit nanoseconds 1000000000 "s"
  else if 1000000 ≤ nanoseconds then inUnit nanoseconds 1000000 "ms"
  else if 1000 ≤ nanoseconds then inUnit nanoseconds 1000 "µs"
  else inUnit nanoseconds 1 "ns"

example : text 1234567 = "1.235ms".toList := by decide +kernel

end GrammarBrew.Elapsed
