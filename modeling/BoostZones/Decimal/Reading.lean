/-!
Decimals read as doubles. A decimal stands for the nearest double; one that is halfway or more
from the greatest double to the next power of two stands for none.
-/

namespace BoostZones.Decimal

/-- The least number that no double is near to. -/
def overflowLimit : Nat := Nat.pow 2 1024 - Nat.pow 2 970

/-- A number with more digits before the point than this is above the limit. -/
def mostPlaces : Int := 310

/-- A number with as many zeros behind the point is nearest to zero. -/
def mostZeros : Int := 330

/-- The number `coefficient * 10 ^ exponent` is at the limit or above. -/
def overflows (coefficient : Nat) (exponent : Int) : Bool :=
  overflowLimit * Nat.pow 10 (-exponent).toNat ≤ coefficient * Nat.pow 10 exponent.toNat

/-- The double nearest to `coefficient * 10 ^ exponent`, if there is one. Numbers that are far
too great or too small are decided by their places alone. -/
def read? (coefficient : Nat) (exponent : Int) : Option Float :=
  let places := exponent + (Nat.repr coefficient).length
  if coefficient = 0 ∨ places < -mostZeros then some 0
  else if mostPlaces < places ∨ overflows coefficient exponent then none
  else some (Float.ofScientific coefficient (exponent < 0) exponent.natAbs)

end BoostZones.Decimal
