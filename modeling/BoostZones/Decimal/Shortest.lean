import BoostZones.Decimal.Basic

/-!
The shortest decimal of a double: of the decimals that read back as the double, one with the
fewest digits, and of those the nearest to it. The doubles next to it bound an interval of
values that read back; the ends belong to it when the mantissa is even. Grids are tried from
coarse to fine, and on each the value's two neighbours; when both will do and are equally near,
the rule for ties decides.
-/

namespace BoostZones.Decimal

/-- Which of two decimals stands for a value halfway between them. -/
inductive Tie where
  /-- The one away from zero. -/
  | up
  /-- The one whose last digit is even. -/
  | even
deriving DecidableEq

/-- The values that read back as one double, in quarters of the unit of its mantissa. -/
structure Basin where
  low : Nat
  value : Nat
  high : Nat
  closed : Bool

/-- The basin of the finite double `m * 2 ^ e`. Below a power of two the neighbour is nearer,
except at the least exponent, where the spacing does not change. -/
def Basin.of (m : Nat) (e : Int) : Basin where
  low := if m = Binary64.leastNormal ∧ e ≠ Binary64.leastExponent then 4 * m - 1 else 4 * m - 2
  value := 4 * m
  high := 4 * m + 2
  closed := m % 2 == 0

/-- The point `c` of the scaled grid lies in the basin. -/
def Basin.holds (b : Basin) (s : Scale) (c : Nat) : Bool :=
  let p := c * s.denominator
  let low := b.low * s.numerator
  let high := b.high * s.numerator
  (low < p && p < high) || (b.closed && (low == p || p == high))

/-- The point of the grid that is in the basin and nearest to the value. -/
def Basin.nearest? (tie : Tie) (b : Basin) (s : Scale) : Option Nat :=
  let below := b.value * s.numerator / s.denominator
  let above := below + 1
  match b.holds s below, b.holds s above with
  | true, true =>
    let p := b.value * s.numerator
    let toBelow := p - below * s.denominator
    let toAbove := above * s.denominator - p
    let chooseBelow := toBelow < toAbove ∨ toBelow = toAbove ∧ tie = .even ∧ below % 2 = 0
    some (if chooseBelow then below else above)
  | true, false => some below
  | false, true => some above
  | false, false => none

/-- Coefficient and exponent of the shortest decimal of the positive value `m * 2 ^ e`. The
last grid tried is finer than the doubles themselves; the exact value stands behind it. -/
def shortestParts (tie : Tie) (m : Nat) (e : Int) : Nat × Int :=
  go 28 (coarse m e)
where
  go : Nat → Int → Nat × Int
    | 0, _ => (m * Nat.pow 2 e.toNat * Nat.pow 5 (-e).toNat, min e 0)
    | steps + 1, k =>
      match (Basin.of m e).nearest? tie (Scale.of (e - 2) k) with
      | some c => (c, k)
      | none => go steps (k - 1)

/-- The shortest decimal of a finite double. Zero has one digit. -/
def shortest (tie : Tie) (negative : Bool) (m : Nat) (e : Int) : Decimal :=
  if m = 0 then ofCoefficient negative 0 0
  else
    let (coefficient, exponent) := shortestParts tie m e
    ofCoefficient negative coefficient exponent

end BoostZones.Decimal
