import BoostZones.Binary64

/-!
Decimal numbers and decimal grids. The grid of the exponent `k` holds the multiples of
`10 ^ k`. A positive binary value `m * 2 ^ e` is compared with the points of a grid in natural
numbers alone: both are multiplied until nothing is a fraction.
-/

namespace BoostZones

/-- A decimal number: its sign, its digits, and how many digits stand before the point. -/
structure Decimal where
  negative : Bool
  digits : List Char
  point : Int
deriving DecidableEq

namespace Decimal

/-- The decimal `coefficient * 10 ^ exponent`, with the coefficient's own digits. -/
def ofCoefficient (negative : Bool) (coefficient : Nat) (exponent : Int) : Decimal :=
  let digits := (Nat.repr coefficient).toList
  { negative, digits, point := exponent + digits.length }

/-- The unit `2 ^ e` measured on the grid of `k`, as a fraction. -/
structure Scale where
  numerator : Nat
  denominator : Nat

/-- `2 ^ e / 10 ^ k` as a fraction of natural numbers. -/
def Scale.of (e k : Int) : Scale where
  numerator := Nat.pow 2 e.toNat * Nat.pow 10 (-k).toNat
  denominator := Nat.pow 2 (-e).toNat * Nat.pow 10 k.toNat

theorem Scale.denominator_pos (e k : Int) : 0 < (Scale.of e k).denominator :=
  Nat.mul_pos (Nat.pow_pos (by decide)) (Nat.pow_pos (by decide))

/-- An exponent whose grid has no point between zero and `m * 2 ^ e` when `m` is positive: the
decimal logarithm of two is less than 30103 / 100000. -/
def coarse (m : Nat) (e : Int) : Int :=
  ((m.log2 : Int) + 2 + e) * 30103 / 100000 + 2

/-- The exponent of the leading decimal digit of `m * 2 ^ e`: the first, going down from the
coarse grid, whose grid has a point that is not above the value. -/
def leadingExponent (m : Nat) (e : Int) : Int :=
  go 8 (coarse m e)
where
  go : Nat → Int → Int
    | 0, k => k
    | steps + 1, k =>
      let scale := Scale.of e k
      if scale.denominator ≤ m * scale.numerator then k else go steps (k - 1)

end Decimal
end BoostZones
