import BoostZones.Binary64
import Mathlib

/-! The number that a double is. A finite double is a rational number, and what is asked of the
double is answered by that number: whether it is below zero, whether it has a fraction, and which
word it is cut to.
-/

namespace BoostZones

open Float.Model

namespace Double

theorem lt_iff (x y : Float) : x < y ↔ x.toModel.unpack.lt y.toModel.unpack = true := by
  change decide _ = true ↔ _
  rw [decide_eq_true_iff]
  rfl

theorem mantissa_shiftRight (m : UnpackedFloat.ExtendedMantissa) (k : Nat)
    : (m >>> k).mantissa = m.mantissa / 2 ^ k := by
  change (Nat.repeat UnpackedFloat.ExtendedMantissa.shiftRightOne k m).mantissa = _
  induction k with
  | zero => rw [Nat.repeat, Nat.pow_zero, Nat.div_one]
  | succ k ih =>
      rw [Nat.repeat, Nat.pow_succ, ← Nat.div_div_eq_div_mul, ← ih]
      rfl

theorem mantissa_ofMantissaAndAccuracy (m : Nat) (accuracy : UnpackedFloat.Accuracy)
    : (UnpackedFloat.ExtendedMantissa.ofMantissaAndAccuracy m accuracy).mantissa = m := by
  unfold UnpackedFloat.ExtendedMantissa.ofMantissaAndAccuracy
  split <;> rfl

/-- A mantissa is cut at the point. -/
theorem roundToInt_eq (sign : UnpackedFloat.Sign) (m : Nat) (e : Int)
    : UnpackedFloat.roundToInt sign m e
      = sign.apply (m * 2 ^ e.toNat / 2 ^ (-e).toNat : Nat) := by
  have left : (0 - (e - (e.toNat : Int))).toNat = (-e).toNat := by omega
  simp only [UnpackedFloat.roundToInt, UnpackedFloat.decreaseExponent,
    UnpackedFloat.shiftToExponent, mantissa_shiftRight, mantissa_ofMantissaAndAccuracy,
    Nat.shiftLeft_eq, Int.sub_zero, left]

theorem toNat_ofNatClamp (n : Nat) : (UInt64.ofNatClamp n).toNat = min n (2 ^ 64 - 1) := by
  unfold UInt64.ofNatClamp
  split
  · next fits =>
    have fits : n < 2 ^ 64 := fits
    rw [UInt64.toNat_ofNatLT]
    omega
  · next wide =>
    have wide : ¬ n < 2 ^ 64 := wide
    rw [UInt64.toNat_ofNatLT]
    change 2 ^ 64 - 1 = _
    omega

end Double

namespace Binary64

/-- The number that a finite double is. -/
def value? : Binary64 → Option ℚ
  | .finite negative mantissa exponent =>
      some ((if negative then -1 else 1) * (mantissa * 2 ^ exponent))
  | .infinite _ => none
  | .notNumber => none

-------------------------------------------------------------------------------
-- Reading from bits
-------------------------------------------------------------------------------

def ofSign : UnpackedFloat.Sign → Bool
  | .negative => true
  | .positive => false

/-- The exact form of a double that is taken apart. -/
def ofUnpacked : UnpackedFloat → Binary64
  | .infinity sign => .infinite (ofSign sign)
  | .notANumber => .notNumber
  | .zero sign => .finite (ofSign sign) 0 leastExponent
  | .finite sign mantissa exponent _ => .finite (ofSign sign) mantissa exponent

/-- The bits of a double are read in the same way when it is taken apart. -/
theorem ofBits_eq_ofUnpacked (bits : BitVec 64)
    : ofBits bits.toNat = ofUnpacked (UnpackedFloat.unpack Format.binary64 bits) := by
  have exponent
      : (@UnpackedFloat.unpackExponent Format.binary64 bits).toNat
        = bits.toNat / Nat.pow 2 52 % Nat.pow 2 11 := by
    change (bits.toNat >>> 52) % 2 ^ 11 = _
    rw [Nat.shiftRight_eq_div_pow]
  have fraction
      : (@UnpackedFloat.unpackMantissa Format.binary64 bits).toNat = bits.toNat % Nat.pow 2 52 := by
    change (bits.toNat >>> 0) % 2 ^ 52 = _
    rw [Nat.shiftRight_zero]
  have sign
      : ofSign (.ofBitVec (@UnpackedFloat.unpackSign Format.binary64 bits))
        = decide (bits.toNat / Nat.pow 2 63 % 2 = 1) := by
    have field
        : (@UnpackedFloat.unpackSign Format.binary64 bits).toNat
          = bits.toNat / Nat.pow 2 63 % 2 := by
      change (bits.toNat >>> 63) % 2 ^ 1 = _
      rw [Nat.shiftRight_eq_div_pow]
    rw [← field]
    generalize @UnpackedFloat.unpackSign Format.binary64 bits = bit
    revert bit
    decide
  have implicit
      : (1#1 ++ @UnpackedFloat.unpackMantissa Format.binary64 bits).toNat
        = leastNormal + (@UnpackedFloat.unpackMantissa Format.binary64 bits).toNat := by
    rw [BitVec.toNat_append, ← Nat.shiftLeft_add_eq_or_of_lt (BitVec.isLt _)]
    rfl
  have full (e : BitVec 11) : e.toNat = 2047 ↔ e = -1#11 :=
    ⟨fun same => BitVec.eq_of_toNat_eq same, fun same => congrArg BitVec.toNat same⟩
  have least (e : BitVec 11) : e.toNat = 0 ↔ e = 0#11 :=
    ⟨fun same => BitVec.eq_of_toNat_eq same, fun same => congrArg BitVec.toNat same⟩
  have empty (f : BitVec 52) : f.toNat = 0 ↔ f = 0#52 :=
    ⟨fun same => BitVec.eq_of_toNat_eq same, fun same => congrArg BitVec.toNat same⟩
  unfold ofBits UnpackedFloat.unpack
  rw [← exponent, ← fraction, ← sign]
  simp only [full, least, empty, implicit]
  split_ifs with special infinite subnormal zero
  · rfl
  · rfl
  · rw [zero]
    rfl
  · rw [subnormal]
    rfl
  · rfl

theorem ofFloat_eq_ofUnpacked (x : Float) : ofFloat x = ofUnpacked x.toModel.unpack :=
  ofBits_eq_ofUnpacked x.toModel.toBits.toBitVec

-------------------------------------------------------------------------------
-- Questions that the value answers
-------------------------------------------------------------------------------

/-- A mantissa with its exponent, as a fraction of natural numbers. -/
theorem scaled_eq_div (m : Nat) (e : Int)
    : (m : ℚ) * 2 ^ e = ((m * 2 ^ e.toNat : Nat) : ℚ) / ((2 ^ (-e).toNat : Nat) : ℚ) := by
  obtain ⟨n, rfl | rfl⟩ := e.eq_nat_or_neg
  · simp
  · simp [div_eq_mul_inv]

theorem isInt_div_iff {a b : Nat} (positive : 0 < b)
    : (∃ n : ℤ, (a : ℚ) / b = n) ↔ b ∣ a := by
  have nonzero : (b : ℚ) ≠ 0 := Nat.cast_ne_zero.mpr positive.ne'
  constructor
  · intro whole
    obtain ⟨n, whole⟩ := whole
    rw [div_eq_iff nonzero] at whole
    have product : (a : ℤ) = n * b := by exact_mod_cast whole
    exact Int.natCast_dvd_natCast.mp ⟨n, by rw [product, mul_comm]⟩
  · intro divides
    obtain ⟨n, rfl⟩ := divides
    exact ⟨n, by rw [Nat.cast_mul, mul_div_cancel_left₀ _ nonzero, Int.cast_natCast]⟩

/-- A number has no fraction exactly when its double has none. -/
theorem isWhole_iff {b : Binary64} {q : ℚ} (value : b.value? = some q)
    : b.isWhole = true ↔ ∃ n : ℤ, q = n := by
  cases b with
  | infinite _ => cases value
  | notNumber => cases value
  | finite negative m e =>
      obtain rfl := Option.some.inj value
      have unsigned
          : (∃ n : ℤ, (if negative then -1 else 1) * ((m : ℚ) * 2 ^ e) = n)
            ↔ ∃ n : ℤ, (m : ℚ) * 2 ^ e = n := by
        cases negative with
        | false => simp
        | true =>
            constructor
            · intro whole
              obtain ⟨n, whole⟩ := whole
              exact ⟨-n, by simpa using congrArg Neg.neg whole⟩
            · intro whole
              obtain ⟨n, whole⟩ := whole
              exact ⟨-n, by simp [whole]⟩
      have cut : (0 ≤ e ∨ Nat.pow 2 (-e).toNat ∣ m) ↔ 2 ^ (-e).toNat ∣ m * 2 ^ e.toNat := by
        by_cases above : 0 ≤ e
        · have zero : (-e).toNat = 0 := by omega
          simp [above, zero]
        · have zero : e.toNat = 0 := by omega
          simp [above, zero]
      rw [isWhole_finite_iff, unsigned, scaled_eq_div, isInt_div_iff (Nat.two_pow_pos _), cut]

/-- The doubles that are numbers are those with a value. -/
theorem isFinite_iff {x : Float} : x.isFinite = true ↔ ∃ q, (ofFloat x).value? = some q := by
  change x.toModel.unpack.isFinite = true ↔ _
  rw [ofFloat_eq_ofUnpacked]
  cases x.toModel.unpack <;> simp [UnpackedFloat.isFinite, ofUnpacked, value?]

section Value
variable {x : Float} {q : ℚ} (value : (ofFloat x).value? = some q)
include value

theorem lt_zero_iff : x < 0 ↔ q < 0 := by
  have zero : (0 : Float).toModel.unpack = .zero .positive := rfl
  rw [ofFloat_eq_ofUnpacked] at value
  rw [Double.lt_iff, zero]
  cases read : x.toModel.unpack with
  | notANumber => simp [read, ofUnpacked, value?] at value
  | infinity sign => simp [read, ofUnpacked, value?] at value
  | zero sign =>
      obtain rfl : 0 = q := by simpa [read, ofUnpacked, value?] using value
      exact iff_of_false nofun (lt_irrefl 0)
  | finite sign m e positive =>
      rw [read] at value
      obtain rfl := Option.some.inj value
      have amount : 0 < (m : ℚ) * 2 ^ e :=
        mul_pos (Nat.cast_pos.mpr positive) (zpow_pos two_pos e)
      cases sign with
      | negative => exact iff_of_true rfl (by simpa [ofSign] using amount)
      | positive => exact iff_of_false nofun (by simpa [ofSign] using amount.le)

/-- A double is cut to the whole part of its value, or to the nearest word. -/
theorem toNat_toUInt64 : x.toUInt64.toNat = min ⌊q⌋₊ (2 ^ 64 - 1) := by
  rw [ofFloat_eq_ofUnpacked] at value
  change (UInt64.ofNatClamp (x.toModel.unpack.toInt 0 (UInt64.size - 1)).toNat).toNat = _
  rw [Double.toNat_ofNatClamp]
  congr 1
  cases read : x.toModel.unpack with
  | notANumber => simp [read, ofUnpacked, value?] at value
  | infinity sign => simp [read, ofUnpacked, value?] at value
  | zero sign =>
      obtain rfl : 0 = q := by simpa [read, ofUnpacked, value?] using value
      exact Nat.floor_zero.symm
  | finite sign m e positive =>
      rw [read] at value
      obtain rfl := Option.some.inj value
      have floor : ⌊(m : ℚ) * 2 ^ e⌋₊ = m * 2 ^ e.toNat / 2 ^ (-e).toNat := by
        rw [scaled_eq_div, Nat.floor_div_eq_div]
      rw [UnpackedFloat.toInt, Double.roundToInt_eq, ← floor]
      cases sign with
      | negative =>
          have below : -((m : ℚ) * 2 ^ e) ≤ 0 :=
            neg_nonpos.mpr (mul_nonneg (Nat.cast_nonneg m) (zpow_nonneg two_pos.le e))
          simp [ofSign, UnpackedFloat.Sign.apply, Nat.floor_of_nonpos below]
      | positive => simp [ofSign, UnpackedFloat.Sign.apply]

end Value

end Binary64
end BoostZones
