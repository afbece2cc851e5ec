/-!
The exact value of a double. A finite double is a sign and a natural number times a power of
two; what else a double can be is an infinity or no number at all. Questions of exactness
(is it whole, which decimal is nearest) are asked of this form and not of the double.
-/

namespace BoostZones

/-- A double taken apart: `finite s m e` stands for `m * 2 ^ e`, negated when `s` holds. -/
inductive Binary64 where
  | finite (negative : Bool) (mantissa : Nat) (exponent : Int)
  | infinite (negative : Bool)
  | notNumber
deriving DecidableEq

namespace Binary64

/-- The mantissa of the least normal double. -/
def leastNormal : Nat := Nat.pow 2 52

/-- The exponent of the subnormal doubles, the least there is. -/
def leastExponent : Int := -1074

/-- The value that 64 bits stand for: one sign bit, eleven exponent bits, 52 fraction bits. -/
def ofBits (bits : Nat) : Binary64 :=
  let negative := decide (bits / Nat.pow 2 63 % 2 = 1)
  let biased : Nat := bits / Nat.pow 2 52 % Nat.pow 2 11
  let fraction : Nat := bits % Nat.pow 2 52
  if biased = 2047 then
    if fraction = 0 then .infinite negative else .notNumber
  else if biased = 0 then .finite negative fraction leastExponent
  else .finite negative (leastNormal + fraction) ((biased : Int) - 1075)

def ofFloat (x : Float) : Binary64 :=
  ofBits x.toBits.toNat

/-- The value has no fractional part. -/
def isWhole : Binary64 → Bool
  | .finite _ m e => 0 ≤ e || m % Nat.pow 2 (-e).toNat == 0
  | _ => false

theorem isWhole_finite_iff (s : Bool) (m : Nat) (e : Int)
    : (finite s m e).isWhole = true ↔ 0 ≤ e ∨ Nat.pow 2 (-e).toNat ∣ m := by
  simp [isWhole, Nat.dvd_iff_mod_eq_zero]

end Binary64

/-- The greater of two doubles, or the one that is a number when only one is. -/
def larger (x y : Float) : Float :=
  if x.isNaN then y
  else if y.isNaN then x
  else if x < y then y else x

end BoostZones
