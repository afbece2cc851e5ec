import Mathlib
import BoostZones.Proofs.Binary64.Order
import BoostZones.Trial.Report

/-! Differences of doubles. A difference is rounded, and still it is zero only between equal
numbers: two doubles that differ do so by at least the least double, and no rounding takes that
away. The cases are told on doubles taken apart into a sign, a mantissa and an exponent.
-/

namespace BoostZones.Double

open Float.Model

/-- A number other than zero, of this sign. -/
def NonzeroOf (sign : UnpackedFloat.Sign) : UnpackedFloat → Prop
  | .infinity own | .finite own _ _ _ => own = sign
  | .notANumber | .zero _ => False

/-- The mantissa has at most 53 bits, and the exponent is not below the least. -/
def InRange : UnpackedFloat → Prop
  | .finite _ mantissa exponent _ => mantissa < 2 ^ 53 ∧ -1074 ≤ exponent
  | .infinity _ | .notANumber | .zero _ => True

/-- The mantissa takes all of its bits, unless the exponent is the least. -/
def Normal : UnpackedFloat → Prop
  | .finite _ mantissa exponent _ => 2 ^ 52 ≤ mantissa ∨ exponent = -1074
  | .infinity _ | .notANumber | .zero _ => True

-------------------------------------------------------------------------------
-- Reading from bits
-------------------------------------------------------------------------------

/-- What the three fields of a double stand for. -/
theorem unpack_packComponents (sign : UnpackedFloat.Sign) (exponent : BitVec 11)
    (fraction : BitVec 52)
    : UnpackedFloat.unpack Format.binary64
        (UnpackedFloat.packComponents Format.binary64 sign exponent fraction)
      = if exponent = -1#11 then
          if fraction = 0#52 then .infinity sign else .notANumber
        else if exponent = 0#11 then
          if zero : fraction = 0#52 then .zero sign
          else .finite sign fraction.toNat (-1074) (Nat.pos_of_ne_zero fun same =>
            zero (BitVec.eq_of_toNat_eq same))
        else .finite sign (2 ^ 52 + fraction.toNat) (exponent.toNat - 1075) (by omega) := by
  have implicit : (1#1 ++ fraction).toNat = 2 ^ 52 + fraction.toNat := by
    rw [BitVec.toNat_append, ← Nat.shiftLeft_add_eq_or_of_lt fraction.isLt]
    rfl
  unfold UnpackedFloat.unpack
  simp only [UnpackedFloat.unpackMantissa_packComponents,
    UnpackedFloat.unpackExponent_packComponents, UnpackedFloat.unpackSign_packComponents,
    UnpackedFloat.Sign.ofBitVec_toBitVec, implicit]
  split
  · rfl
  · split
    · next subnormal =>
      subst subnormal
      rfl
    · rfl

theorem shape_unpack (bits : BitVec 64)
    : InRange (UnpackedFloat.unpack Format.binary64 bits)
      ∧ Normal (UnpackedFloat.unpack Format.binary64 bits) := by
  have parts :=
    @UnpackedFloat.packComponents_unpackSign_unpackExponent_unpackMantissa Format.binary64 bits
  rw [← parts]
  generalize @UnpackedFloat.unpackExponent Format.binary64 bits = exponent
  generalize @UnpackedFloat.unpackMantissa Format.binary64 bits = fraction
  rw [unpack_packComponents]
  have short : fraction.toNat < 2 ^ 52 := fraction.isLt
  split_ifs with special infinite subnormal zero
  · exact ⟨trivial, trivial⟩
  · exact ⟨trivial, trivial⟩
  · exact ⟨trivial, trivial⟩
  · exact ⟨⟨Nat.lt_trans short (by decide), Int.le_refl _⟩, Or.inr rfl⟩
  · have least : exponent.toNat ≠ 0 := fun same => subnormal (BitVec.eq_of_toNat_eq same)
    exact ⟨⟨by omega, by omega⟩, Or.inl (Nat.le_add_right ..)⟩

-------------------------------------------------------------------------------
-- Storing
-------------------------------------------------------------------------------

/-- What is read back after a result is stored. -/
def stored (w : UnpackedFloat) : UnpackedFloat :=
  (Float.Model.pack w).unpack

theorem stored_zero (sign : UnpackedFloat.Sign) : stored (.zero sign) = .zero sign := by
  cases sign <;> rfl

theorem nonzeroOf_unpack {sign : UnpackedFloat.Sign} {exponent : BitVec 11} {fraction : BitVec 52}
    (nonzero : exponent ≠ 0#11 ∨ fraction ≠ 0#52) (number : exponent = -1#11 → fraction = 0#52)
    : NonzeroOf sign
        (UnpackedFloat.unpack Format.binary64
          (UnpackedFloat.packComponents Format.binary64 sign exponent fraction)) := by
  rw [unpack_packComponents]
  split_ifs with special infinite subnormal zero
  · rfl
  · exact infinite (number special)
  · exact nonzero.elim (absurd subnormal) (absurd zero)
  · rfl
  · rfl

/-- A number that is not zero may become infinite when it is stored, but not zero. -/
theorem nonzeroOf_stored {sign : UnpackedFloat.Sign} {w : UnpackedFloat} (range : InRange w)
    (nonzero : NonzeroOf sign w)
    : NonzeroOf sign (stored w) := by
  cases w with
  | notANumber => exact nonzero.elim
  | zero _ => exact nonzero.elim
  | infinity own =>
      cases nonzero
      exact nonzeroOf_unpack (Or.inl (by decide)) fun _ => rfl
  | finite own mantissa exponent positive =>
      cases nonzero
      obtain ⟨short, least⟩ := range
      change NonzeroOf sign (UnpackedFloat.unpack _ (UnpackedFloat.pack _ _))
      unfold UnpackedFloat.pack
      dsimp only
      split_ifs with great full
      · exact nonzeroOf_unpack (Or.inl (by decide)) fun _ => rfl
      -- A full mantissa is told by the exponent field, which is then not zero.
      · have bias : Format.binary64.exponentBias = 1023 := rfl
        rw [bias] at great ⊢
        generalize place : (exponent + (1023 : Nat) + (52 : Nat)).toNat = biased at great ⊢
        have field : (BitVec.ofNat 11 biased).toNat = biased := by
          rw [BitVec.toNat_ofNat, Nat.mod_eq_of_lt (by omega)]
        refine nonzeroOf_unpack (Or.inl fun same => ?_) fun special => ?_
        · rw [same] at field
          have : (0 : Nat) = biased := field
          omega
        · rw [special] at field
          have : (2047 : Nat) = biased := field
          omega
      -- A shorter one is the fraction itself, and loses no bit.
      · have bits : Format.binary64.mantissaBits = 53 := rfl
        rw [bits] at full
        have log := (Nat.log2_lt (Nat.ne_of_gt positive)).2 short
        have fraction : mantissa < 2 ^ 52 := (Nat.log2_lt (Nat.ne_of_gt positive)).1 (by omega)
        refine nonzeroOf_unpack (Or.inr fun same => ?_) fun special => absurd special (by decide)
        have field : (BitVec.ofNat 52 mantissa).toNat = mantissa := by
          rw [BitVec.toNat_ofNat, Nat.mod_eq_of_lt fraction]
        rw [same] at field
        have : (0 : Nat) = mantissa := field
        omega

-------------------------------------------------------------------------------
-- Rounding
-------------------------------------------------------------------------------

theorem le_roundedMantissa (m : UnpackedFloat.ExtendedMantissa)
    : m.mantissa ≤ m.roundedMantissa := by
  unfold UnpackedFloat.ExtendedMantissa.roundedMantissa UnpackedFloat.Accuracy.roundToNearestEven
  split <;> omega

theorem shiftLeft_pos {m : Nat} (positive : 0 < m) (k : Nat) : 0 < m <<< k := by
  rw [Nat.shiftLeft_eq]
  exact Nat.mul_pos positive (Nat.two_pow_pos k)

/-- Above the least exponent a mantissa loses what it has beyond 53 bits, and so not all of it. -/
theorem shifted_mantissa {m : Nat} (positive : 0 < m) {e : Int} (least : -1074 ≤ e)
    (accuracy : UnpackedFloat.Accuracy)
    : let shifted := UnpackedFloat.shiftToTargetExponent Format.binary64 m e accuracy
      0 < shifted.1.mantissa ∧ shifted.1.mantissa < 2 ^ 53 ∧ -1074 ≤ shifted.2 := by
  have lower := Nat.log2_self_le (Nat.ne_of_gt positive)
  have upper := @Nat.lt_log2_self m
  have lost : (Format.binary64.targetExponent (totalExponent m e) - e).toNat = m.log2 - 52 := by
    have target : Format.binary64.targetExponent (totalExponent m e)
        = max ((m.log2 : Int) + 1 + e - 53) (-1074) := rfl
    omega
  simp only [UnpackedFloat.shiftToTargetExponent, UnpackedFloat.shiftToExponent,
    mantissa_shiftRight, mantissa_ofMantissaAndAccuracy, lost]
  refine ⟨Nat.div_pos ?_ (Nat.two_pow_pos _), ?_, by omega⟩
  · exact Nat.le_trans (Nat.pow_le_pow_right (by decide) (Nat.sub_le ..)) lower
  · rw [Nat.div_lt_iff_lt_mul (Nat.two_pow_pos _), ← Nat.pow_add]
    exact Nat.lt_of_lt_of_le upper (Nat.pow_le_pow_right (by decide) (by omega))

/-- Rounding takes no number to zero whose exponent is not below the least. -/
theorem nonzeroOf_round (sign : UnpackedFloat.Sign) {m : Nat} (positive : 0 < m) {e : Int}
    (least : -1074 ≤ e)
    : NonzeroOf sign (UnpackedFloat.round Format.binary64 sign m e)
      ∧ InRange (UnpackedFloat.round Format.binary64 sign m e) := by
  have goal : -1074 ≤ Format.binary64.targetExponent (totalExponent m e) := Int.le_max_right _ _
  unfold UnpackedFloat.round UnpackedFloat.decreaseExponent UnpackedFloat.roundWithAccuracy
  dsimp only
  generalize Format.binary64.targetExponent (totalExponent m e) = target at goal ⊢
  -- The mantissa is cut twice, since rounding may carry into a bit too many.
  have above : -1074 ≤ e - ((e - target).toNat : Int) := by omega
  obtain ⟨mantissa, -, kept⟩ := shifted_mantissa (shiftLeft_pos positive _) above .exact
  have rounded := Nat.lt_of_lt_of_le mantissa (le_roundedMantissa _)
  obtain ⟨left, short, held⟩ := shifted_mantissa rounded kept .exact
  rw [dif_neg (Nat.ne_of_gt left)]
  exact ⟨rfl, short, held⟩

-------------------------------------------------------------------------------
-- Differences
-------------------------------------------------------------------------------

/-- A double with the greater exponent is never a double with a smaller one. -/
theorem shiftLeft_ne {m other k : Nat} (full : 2 ^ 52 ≤ m) (short : other < 2 ^ 53) (shifted : 0 < k)
    : m <<< k ≠ other := by
  have twice : 2 ^ 1 ≤ 2 ^ k := Nat.pow_le_pow_right (by decide) shifted
  have long : 2 ^ 52 * 2 ^ 1 ≤ m * 2 ^ k := Nat.mul_le_mul full twice
  rw [Nat.shiftLeft_eq]
  omega

/-- Doubles of the same value have the same mantissa and the same exponent. -/
theorem eq_of_shiftLeft_eq {m₁ m₂ : Nat} {e₁ e₂ : Int} (short₁ : m₁ < 2 ^ 53) (short₂ : m₂ < 2 ^ 53)
    (least₁ : -1074 ≤ e₁) (least₂ : -1074 ≤ e₂) (normal₁ : 2 ^ 52 ≤ m₁ ∨ e₁ = -1074)
    (normal₂ : 2 ^ 52 ≤ m₂ ∨ e₂ = -1074)
    (same : m₁ <<< (e₁ - min e₁ e₂).toNat = m₂ <<< (e₂ - min e₁ e₂).toNat)
    : m₁ = m₂ ∧ e₁ = e₂ := by
  rcases Int.lt_trichotomy e₁ e₂ with below | rfl | above
  · have unshifted : (e₁ - min e₁ e₂).toNat = 0 := by omega
    rw [unshifted, Nat.shiftLeft_zero] at same
    exact absurd same.symm (shiftLeft_ne (normal₂.resolve_right (by omega)) short₁ (by omega))
  · rw [Int.min_self, Int.sub_self] at same
    exact ⟨same, rfl⟩
  · have unshifted : (e₂ - min e₁ e₂).toNat = 0 := by omega
    rw [unshifted, Nat.shiftLeft_zero] at same
    exact absurd same (shiftLeft_ne (normal₁.resolve_right (by omega)) short₂ (by omega))

theorem nonzeroOf_normalize {m : Int} (nonzero : m ≠ 0) {e : Int} (least : -1074 ≤ e)
    (zeroSign : UnpackedFloat.Sign)
    : ∃ sign,
        NonzeroOf sign (UnpackedFloat.normalize Format.binary64 m e zeroSign)
        ∧ InRange (UnpackedFloat.normalize Format.binary64 m e zeroSign) := by
  unfold UnpackedFloat.normalize
  split
  · next negative =>
    have below := Int.compare_eq_lt.1 negative
    exact ⟨_, nonzeroOf_round .negative (by omega) least⟩
  · next zero => exact absurd (Int.compare_eq_eq.1 zero) nonzero
  · next positive =>
    have above := Int.compare_eq_gt.1 positive
    exact ⟨_, nonzeroOf_round .positive (by omega) least⟩

theorem eq_of_value_eq {s₁ s₂ : UnpackedFloat.Sign} {m₁ m₂ : Nat} (positive₁ : 0 < m₁)
    (positive₂ : 0 < m₂) (same : s₁.apply m₁ - s₂.apply m₂ = 0)
    : s₁ = s₂ ∧ m₁ = m₂ := by
  cases s₁ <;> cases s₂ <;> simp only [UnpackedFloat.Sign.apply] at same <;>
    first | omega | exact ⟨rfl, by omega⟩

/-- The difference of two numbers that are not equal is a number other than zero. -/
theorem nonzeroOf_sub {u v : UnpackedFloat} (shape₁ : InRange u ∧ Normal u)
    (shape₂ : InRange v ∧ Normal v) (number₁ : u ≠ .notANumber) (number₂ : v ≠ .notANumber)
    (other : u.beq v = false)
    : ∃ sign,
        NonzeroOf sign (UnpackedFloat.sub Format.binary64 u v)
        ∧ InRange (UnpackedFloat.sub Format.binary64 u v) := by
  cases u with
  | notANumber => exact absurd rfl number₁
  | infinity s₁ =>
      cases v with
      | notANumber => exact absurd rfl number₂
      | infinity s₂ => 
        cases s₁ <;> cases s₂ <;> first | exact absurd other (by decide) | exact ⟨_, rfl, trivial⟩
      | zero s₂ => exact ⟨_, rfl, trivial⟩
      | finite s₂ m₂ e₂ positive₂ => exact ⟨_, rfl, trivial⟩
  | zero s₁ => 
      cases v with
      | notANumber => exact absurd rfl number₂
      | infinity s₂ => exact ⟨_, rfl, trivial⟩
      | zero s₂ => cases other
      | finite s₂ m₂ e₂ positive₂ => exact ⟨_, rfl, shape₂.1⟩
  | finite s₁ m₁ e₁ positive₁ =>
      cases v with
      | notANumber => exact absurd rfl number₂
      | infinity s₂ => exact ⟨_, rfl, trivial⟩
      | zero s₂ => exact ⟨_, rfl, shape₁.1⟩
      | finite s₂ m₂ e₂ positive₂ =>
        -- Only equal numbers cancel, because the shape of a double is told by its value.
        refine nonzeroOf_normalize (fun same => ?_) (Int.le_min.2 ⟨shape₁.1.2, shape₂.1.2⟩) _
        obtain ⟨rfl, shifted⟩ :=
          eq_of_value_eq (shiftLeft_pos positive₁ _) (shiftLeft_pos positive₂ _) same
        obtain ⟨rfl, rfl⟩ := eq_of_shiftLeft_eq shape₁.1.1 shape₂.1.1 shape₁.1.2 shape₂.1.2
          shape₁.2 shape₂.2 shifted
        rw [(UnpackedFloat.beq_iff_ne_notANumber_and_eq _ _).2 ⟨number₁, number₂, Or.inl rfl⟩]
          at other
        cases other

theorem nonzeroOf_abs {sign : UnpackedFloat.Sign} {w : UnpackedFloat} (range : InRange w)
    (nonzero : NonzeroOf sign w)
    : NonzeroOf .positive w.abs ∧ InRange w.abs := by
  cases w with
  | notANumber => exact nonzero.elim
  | zero own => exact nonzero.elim
  | infinity own => exact ⟨rfl, trivial⟩
  | finite own m e positive => exact ⟨rfl, range⟩

theorem sub_of_beq {u v : UnpackedFloat} (same : u.beq v = true)
    : UnpackedFloat.sub Format.binary64 u v = .notANumber
      ∨ ∃ sign, UnpackedFloat.sub Format.binary64 u v = .zero sign := by
  obtain ⟨-, -, rfl | ⟨rfl, rfl⟩ | ⟨rfl, rfl⟩⟩ :=
    (UnpackedFloat.beq_iff_ne_notANumber_and_eq u v).1 same
  · cases u with
    | notANumber => exact Or.inl rfl
    | infinity s => cases s <;> exact Or.inl rfl
    | zero s => cases s <;> exact Or.inr ⟨_, rfl⟩
    | finite s m e positive =>
        refine Or.inr ⟨.positive, ?_⟩
        simp only [UnpackedFloat.sub, Int.sub_self]
        rfl
  · exact Or.inr ⟨_, rfl⟩
  · exact Or.inr ⟨_, rfl⟩

-------------------------------------------------------------------------------
-- Distances of doubles
-------------------------------------------------------------------------------

theorem beq_zero_iff (x : Float) : (x == 0) = true ↔ ∃ sign, x.toModel.unpack = .zero sign := by
  change UnpackedFloat.beq x.toModel.unpack (.zero .positive) = true ↔ _
  rw [UnpackedFloat.beq_iff_ne_notANumber_and_eq]
  cases x.toModel.unpack with
  | zero sign => cases sign <;> simp
  | notANumber => simp
  | infinity sign => simp
  | finite sign m e positive => simp

theorem zero_lt_iff (x : Float) : 0 < x ↔ NonzeroOf .positive x.toModel.unpack := by
  have zero : (0 : Float).toModel.unpack = .zero .positive := rfl
  rw [lt_iff, zero]
  cases x.toModel.unpack with
  | zero sign => simp [NonzeroOf, UnpackedFloat.lt, UnpackedFloat.compare]
  | notANumber => simp [NonzeroOf, UnpackedFloat.lt, UnpackedFloat.compare]
  | infinity sign => cases sign <;> simp [NonzeroOf, UnpackedFloat.lt, UnpackedFloat.compare]
  | finite sign m e positive =>
      cases sign <;> simp [NonzeroOf, UnpackedFloat.lt, UnpackedFloat.compare]

/-- A comparison by distances does not tell these apart: they are the same number, or one of them
is no number.
-/
def Alike (x y : Float) : Prop :=
  (x == y) = true ∨ x.isNaN = true ∨ y.isNaN = true

theorem distance_of_alike {x y : Float} (alike : Alike x y)
    : (x - y).abs.isNaN = true ∨ ((x - y).abs == 0) = true := by
  have parts : (x - y).abs.toModel.unpack
      = stored (stored (UnpackedFloat.sub Format.binary64 x.toModel.unpack y.toModel.unpack)).abs :=
    rfl
  rw [isNaN_iff, beq_zero_iff, parts]
  have cases
      : UnpackedFloat.sub Format.binary64 x.toModel.unpack y.toModel.unpack = .notANumber
        ∨ ∃ sign, UnpackedFloat.sub Format.binary64 x.toModel.unpack y.toModel.unpack
          = .zero sign := by
    rcases alike with same | unordered | unordered
    · exact sub_of_beq same
    · rw [(isNaN_iff x).1 unordered]
      exact Or.inl rfl
    · rw [(isNaN_iff y).1 unordered]
      left
      cases x.toModel.unpack <;> rfl
  rcases cases with unordered | ⟨sign, zero⟩
  · rw [unordered]
    exact Or.inl rfl
  · rw [zero, stored_zero]
    exact Or.inr ⟨_, stored_zero .positive⟩

/-- The distance of doubles that are not alike is greater than zero. -/
theorem zero_lt_distance {x y : Float} (apart : ¬ Alike x y) : 0 < (x - y).abs := by
  have parts : (x - y).abs.toModel.unpack
      = stored (stored (UnpackedFloat.sub Format.binary64 x.toModel.unpack y.toModel.unpack)).abs :=
    rfl
  obtain ⟨other, number₁, number₂⟩ :
      x.toModel.unpack.beq y.toModel.unpack = false ∧ x.toModel.unpack ≠ .notANumber
        ∧ y.toModel.unpack ≠ .notANumber := by
    refine ⟨Bool.eq_false_iff.2 fun same => apart (Or.inl same), ?_, ?_⟩
    · exact fun unordered => apart (Or.inr (Or.inl ((isNaN_iff x).2 unordered)))
    · exact fun unordered => apart (Or.inr (Or.inr ((isNaN_iff y).2 unordered)))
  obtain ⟨sign, nonzero, range⟩ :=
    nonzeroOf_sub (shape_unpack _) (shape_unpack _) number₁ number₂ other
  have kept := nonzeroOf_stored range nonzero
  obtain ⟨positive, bounded⟩ := nonzeroOf_abs (shape_unpack _).1 kept
  rw [zero_lt_iff, parts]
  exact nonzeroOf_stored bounded positive

theorem zero_lt_distance_iff (x y : Float) : 0 < (x - y).abs ↔ ¬ Alike x y := by
  refine ⟨fun positive alike => ?_, zero_lt_distance⟩
  rw [zero_lt_iff] at positive
  rcases distance_of_alike alike with unordered | zero
  · rw [(isNaN_iff _).1 unordered] at positive
    exact positive
  · obtain ⟨sign, read⟩ := (beq_zero_iff _).1 zero
    rw [read] at positive
    exact positive

-------------------------------------------------------------------------------
-- The greatest distance
-------------------------------------------------------------------------------

/-- A number that is not negative. -/
def Amount (x : Float) : Prop :=
  (x == 0) = true ∨ 0 < x

theorem beq_zero_of_amount {x : Float} (amount : Amount x) : (x == 0) = true ↔ ¬ 0 < x := by
  constructor
  · intro zero positive
    obtain ⟨sign, read⟩ := (beq_zero_iff x).1 zero
    rw [zero_lt_iff, read] at positive
    exact positive
  · exact amount.resolve_right

theorem isNaN_of_amount {x : Float} (amount : Amount x) : x.isNaN = false := by
  apply Bool.eq_false_iff.2
  intro unordered
  rw [Amount, beq_zero_iff, zero_lt_iff, (isNaN_iff x).1 unordered] at amount
  obtain ⟨_, ⟨⟩⟩ | ⟨⟨⟩⟩ := amount

theorem distance_cases (x y : Float) : (x - y).abs.isNaN = true ∨ Amount (x - y).abs := by
  by_cases alike : Alike x y
  · exact (distance_of_alike alike).imp_right Or.inl
  · exact Or.inr (Or.inr (zero_lt_distance alike))

/-- The greatest of distances is greater than zero when one of them is. -/
theorem zero_lt_foldl_larger_iff {start : Float} (amount : Amount start) (distances : List Float)
    (all : ∀ d ∈ distances, d.isNaN = true ∨ Amount d)
    : Amount (distances.foldl larger start)
      ∧ (0 < distances.foldl larger start ↔ 0 < start ∨ ∃ d ∈ distances, 0 < d) := by
  obtain ⟨above, covers, among⟩ := foldl_larger_spec (isNaN_of_amount amount) distances
  constructor
  · rcases among with first | later
    · exact first.symm ▸ amount
    · refine (all _ later).resolve_left ?_
      rw [(numbers_of_le above).2]
      exact Bool.false_ne_true
  · constructor
    · intro positive
      rcases among with first | later
      · exact Or.inl (first ▸ positive)
      · exact Or.inr ⟨_, later, positive⟩
    · intro found
      rcases found with positive | ⟨d, member, positive⟩
      · exact lt_of_lt_of_le positive above
      · exact lt_of_lt_of_le positive (covers d member (numbers_of_lt positive).2)

theorem zero_lt_larger_iff {x y : Float} (amount : Amount x) (other : y.isNaN = true ∨ Amount y)
    : Amount (larger x y) ∧ (0 < larger x y ↔ 0 < x ∨ 0 < y) := by
  simpa using zero_lt_foldl_larger_iff amount [y] (by simpa using other)

end BoostZones.Double

namespace BoostZones.Report

open Double

/-- Lists of entries that are alike at every place that both have. -/
def AlikeAt (a b : Array Float) : Prop :=
  ∀ p ∈ a.toList.zip b.toList, Alike p.1 p.2

theorem greatestDifference_spec (a b : Array Float)
    : Amount (greatestDifference a b) ∧ (0 < greatestDifference a b ↔ ¬ AlikeAt a b) := by
  have zero : Amount 0 := Or.inl (by decide)
  have irreflexive : ¬ (0 : Float) < 0 := by decide
  have all (d : Float) (member : d ∈ (a.toList.zip b.toList).map fun p => (p.1 - p.2).abs)
      : d.isNaN = true ∨ Amount d := by
    obtain ⟨p, -, rfl⟩ := List.mem_map.1 member
    exact distance_cases p.1 p.2
  obtain ⟨amount, positive⟩ := zero_lt_foldl_larger_iff zero _ all
  refine ⟨amount, positive.trans ?_⟩
  simp only [or_iff_right irreflexive, List.mem_map, exists_exists_and_eq_and, zero_lt_distance_iff,
    AlikeAt, not_forall, exists_prop]

end BoostZones.Report
