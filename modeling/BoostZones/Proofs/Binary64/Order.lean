import BoostZones.Proofs.Binary64.Values
import Mathlib

/-! The order of doubles. A comparison with what is no number is false, and the numbers stand in a
linear order: first by sign and infinity, then by exponent, then by mantissa.
-/

namespace BoostZones.Double

open Float.Model

/-- The place of a number in the order. -/
def rank : UnpackedFloat → ℤ ×ₗ ℤ ×ₗ ℤ
  | .infinity .negative => toLex (-2, toLex (0, 0))
  | .finite .negative m e _ => toLex (-1, toLex (-e, -(m : ℤ)))
  | .zero _ | .notANumber => toLex (0, toLex (0, 0))
  | .finite .positive m e _ => toLex (1, toLex (e, (m : ℤ)))
  | .infinity .positive => toLex (2, toLex (0, 0))

-------------------------------------------------------------------------------
-- Comparing
-------------------------------------------------------------------------------

theorem compare_natCast (m n : ℕ) : compare (m : ℤ) n = compare m n := by
  simpa only [cmp_eq_compare] using Nat.strictMono_cast.cmp_map_eq m n

theorem compare_neg (a b : ℤ) : compare (-a) (-b) = (compare a b).swap := by
  have reversed : StrictAnti fun x : ℤ => -x := fun _ _ less => Int.neg_lt_neg less
  rw [← cmp_eq_compare, ← cmp_eq_compare, cmp_swap]
  exact reversed.cmp_map_eq a b

/-- Numbers are compared by their places, by cases on what they are. -/
theorem compare_eq_compare_rank {u v : UnpackedFloat} (number₁ : u ≠ .notANumber)
    (number₂ : v ≠ .notANumber)
    : u.compare v = some (compare (rank u) (rank v)) := by
  cases u with
  | notANumber => exact absurd rfl number₁
  | infinity s₁ =>
      cases v with
      | notANumber => exact absurd rfl number₂
      | infinity s₂ => cases s₁ <;> cases s₂ <;> rfl
      | zero s₂ => cases s₁ <;> rfl
      | finite s₂ m₂ e₂ positive₂ => cases s₁ <;> cases s₂ <;> rfl
  | zero s₁ =>
      cases v with
      | notANumber => exact absurd rfl number₂
      | infinity s₂ => cases s₂ <;> rfl
      | zero s₂ => rfl
      | finite s₂ m₂ e₂ positive₂ => cases s₂ <;> rfl
  | finite s₁ m₁ e₁ positive₁ =>
      cases v with
      | notANumber => exact absurd rfl number₂
      | infinity s₂ => cases s₁ <;> cases s₂ <;> rfl
      | zero s₂ => cases s₁ <;> rfl
      | finite s₂ m₂ e₂ positive₂ =>
          cases s₁ with
          | positive =>
              cases s₂ with
              | negative => rfl
              | positive =>
                simp [UnpackedFloat.compare, rank, Prod.Lex.compare_def, compareLex, compareOn,
                  compare_natCast]
          | negative =>
              cases s₂ with
              | positive => rfl
              | negative =>
                simp [UnpackedFloat.compare, rank, Prod.Lex.compare_def, compareLex, compareOn,
                  compare_natCast, compare_neg, Ordering.swap_then]

theorem isNaN_iff (x : Float) : x.isNaN = true ↔ x.toModel.unpack = .notANumber :=
  UnpackedFloat.isNaN_iff

theorem isNaN_eq_false_iff (x : Float) : x.isNaN = false ↔ x.toModel.unpack ≠ .notANumber := by
  rw [Ne, ← isNaN_iff, Bool.not_eq_true]

theorem le_iff (x y : Float) : x ≤ y ↔ x.toModel.unpack.le y.toModel.unpack = true := by
  change decide _ = true ↔ _
  rw [decide_eq_true_iff]
  rfl

section Numbers
variable {x y : Float} (number₁ : x.isNaN = false) (number₂ : y.isNaN = false)
include number₁ number₂

theorem lt_iff_rank_lt : x < y ↔ rank x.toModel.unpack < rank y.toModel.unpack := by
  rw [isNaN_eq_false_iff] at number₁ number₂
  rw [lt_iff, UnpackedFloat.lt, compare_eq_compare_rank number₁ number₂, beq_iff_eq,
    Option.some.injEq, compare_lt_iff_lt]

theorem le_iff_rank_le : x ≤ y ↔ rank x.toModel.unpack ≤ rank y.toModel.unpack := by
  rw [isNaN_eq_false_iff] at number₁ number₂
  rw [le_iff, UnpackedFloat.le, compare_eq_compare_rank number₁ number₂, Option.any_some,
    Ordering.isLE_iff_ne_gt]
  exact compare_le_iff_le

theorem not_lt_iff_le : ¬ x < y ↔ y ≤ x := by
  rw [lt_iff_rank_lt number₁ number₂, le_iff_rank_le number₂ number₁, not_lt]

end Numbers

/-- Only numbers are found to be in order. -/
theorem numbers_of_le {x y : Float} (less : x ≤ y) : x.isNaN = false ∧ y.isNaN = false := by
  rw [le_iff, UnpackedFloat.le] at less
  rw [isNaN_eq_false_iff, isNaN_eq_false_iff]
  constructor
  · intro unordered
    rw [unordered] at less
    cases less
  · intro unordered
    rw [unordered] at less
    cases read : x.toModel.unpack <;> rw [read] at less <;> cases less

theorem le_refl {x : Float} (number : x.isNaN = false) : x ≤ x :=
  (le_iff_rank_le number number).mpr le_rfl

theorem le_trans {x y z : Float} (less : x ≤ y) (more : y ≤ z) : x ≤ z := by
  obtain ⟨number₁, number₂⟩ := numbers_of_le less
  obtain ⟨-, number₃⟩ := numbers_of_le more
  rw [le_iff_rank_le number₁ number₂] at less
  rw [le_iff_rank_le number₂ number₃] at more
  exact (le_iff_rank_le number₁ number₃).mpr (less.trans more)

theorem numbers_of_lt {x y : Float} (less : x < y) : x.isNaN = false ∧ y.isNaN = false := by
  apply numbers_of_le
  rw [lt_iff, UnpackedFloat.lt, beq_iff_eq] at less
  rw [le_iff, UnpackedFloat.le, less]
  rfl

theorem lt_of_lt_of_le {x y z : Float} (less : x < y) (most : y ≤ z) : x < z := by
  obtain ⟨number₁, number₂⟩ := numbers_of_lt less
  obtain ⟨-, number₃⟩ := numbers_of_le most
  rw [lt_iff_rank_lt number₁ number₂] at less
  rw [le_iff_rank_le number₂ number₃] at most
  exact (lt_iff_rank_lt number₁ number₃).mpr (less.trans_le most)

theorem le_of_lt {x y : Float} (less : x < y) : x ≤ y := by
  obtain ⟨number₁, number₂⟩ := numbers_of_lt less
  rw [lt_iff_rank_lt number₁ number₂] at less
  exact (le_iff_rank_le number₁ number₂).mpr less.le

-------------------------------------------------------------------------------
-- The greater of two
-------------------------------------------------------------------------------

/-- The greater of a number and another double is a number that neither is above, and it is one
of them.
-/
theorem larger_spec {x : Float} (number : x.isNaN = false) (y : Float)
    : x ≤ larger x y
      ∧ (y.isNaN = false → y ≤ larger x y)
      ∧ (larger x y = x ∨ larger x y = y) := by
  unfold larger
  rw [number, if_neg Bool.false_ne_true]
  split
  · next unordered =>
    refine ⟨le_refl number, ?_, Or.inl rfl⟩
    intro ordered
    cases unordered.symm.trans ordered
  · next ordered =>
    rw [Bool.not_eq_true] at ordered
    split
    · next less => exact ⟨le_of_lt less, fun _ => le_refl ordered, Or.inr rfl⟩
    · next most =>
      exact ⟨le_refl number, fun _ => (not_lt_iff_le number ordered).mp most, Or.inl rfl⟩

/-- The greatest of a number and further doubles, by induction on these. -/
theorem foldl_larger_spec {start : Float} (number : start.isNaN = false) (rest : List Float)
    : start ≤ rest.foldl larger start
      ∧ (∀ x ∈ rest, x.isNaN = false → x ≤ rest.foldl larger start)
      ∧ (rest.foldl larger start = start ∨ rest.foldl larger start ∈ rest) := by
  induction rest generalizing start with
  | nil => exact ⟨le_refl number, List.forall_mem_nil _, Or.inl rfl⟩
  | cons x rest ih =>
      obtain ⟨above, covers, among⟩ := larger_spec number x
      obtain ⟨above', covers', among'⟩ := ih (numbers_of_le above).2
      refine ⟨le_trans above above', ?_, ?_⟩
      · exact List.forall_mem_cons.mpr ⟨fun ordered => le_trans (covers ordered) above', covers'⟩
      · rcases among' with same | later
        · rw [List.foldl_cons, same]
          refine among.imp_right fun own => ?_
          rw [own]
          exact List.mem_cons_self
        · exact Or.inr (List.mem_cons_of_mem x later)

end BoostZones.Double
