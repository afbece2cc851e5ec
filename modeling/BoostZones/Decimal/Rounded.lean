import BoostZones.Decimal.Basic

/-!
Decimals with a given number of digits. The exact value of the double is rounded to the nearest
point of the grid that leaves this many digits; a value halfway goes to the even neighbour.
-/

namespace BoostZones.Decimal

/-- The natural number nearest to a fraction, the even one of two that are equally near. -/
def roundHalfEven (numerator denominator : Nat) : Nat :=
  let below := numerator / denominator
  let rest := 2 * (numerator % denominator)
  if rest < denominator then below
  else if denominator < rest then below + 1
  else if below % 2 = 0 then below else below + 1

/-- The decimal of `places + 1` digits nearest to a finite double. -/
def rounded (places : Nat) (negative : Bool) (m : Nat) (e : Int) : Decimal :=
  if m = 0 then { negative, digits := List.replicate (places + 1) '0', point := 1 }
  else
    let k := leadingExponent m e - places
    let scale := Scale.of e k
    let coefficient := roundHalfEven (m * scale.numerator) scale.denominator
    if coefficient = Nat.pow 10 (places + 1) then
      ofCoefficient negative (Nat.pow 10 places) (k + 1)
    else ofCoefficient negative coefficient k

/-- Rounding moves a fraction by at most half a unit. -/
theorem roundHalfEven_near (numerator denominator : Nat) (positive : 0 < denominator)
    : 2 * numerator ≤ (2 * roundHalfEven numerator denominator + 1) * denominator
      ∧ 2 * roundHalfEven numerator denominator * denominator
        ≤ 2 * numerator + denominator := by
  have parts := Nat.div_add_mod numerator denominator
  have rest := Nat.mod_lt numerator positive
  rw [Nat.mul_comm] at parts
  have cases : roundHalfEven numerator denominator = numerator / denominator
        ∧ 2 * (numerator % denominator) ≤ denominator
      ∨ roundHalfEven numerator denominator = numerator / denominator + 1
        ∧ denominator ≤ 2 * (numerator % denominator) := by
    unfold roundHalfEven
    grind
  rcases cases with ⟨h, near⟩ | ⟨h, near⟩ <;>
    (simp only [h, Nat.mul_add, Nat.add_mul, Nat.mul_assoc, Nat.one_mul, Nat.mul_one]; omega)

end BoostZones.Decimal
