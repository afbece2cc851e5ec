import BoostZones.Objective.Sample
import BoostZones.Proofs.Binary64.Order
import BoostZones.Proofs.Objective.Domain
import Mathlib

/-! What gradients, hessians and metrics are, written out from exponentials and logarithms of one
sample's scores. The softmax is taken relative to the greatest score, which is told by what it is
and not by how it is found. The terms of every objective agree with the formulas on the targets of
its domain.
-/

namespace BoostZones.Objective

-------------------------------------------------------------------------------
-- The formulas
-------------------------------------------------------------------------------

/-- The greatest of the scores that are numbers; without any it is the least of all doubles. -/
structure Greatest (scores : List Float) (top : Float) : Prop where
  number : top.isNaN = false
  held : top ∈ scores ∨ top = -1 / 0
  above : ∀ score ∈ scores, score.isNaN = false → score ≤ top

/-- The logarithm of the sum of the exponentials, told relative to one of the scores. -/
def logOfSum (scores : List Float) (top : Float) : Float :=
  top + ((scores.map fun score => (score - top).exp).foldl (· + ·) (-0.0)).log

/-- The logistic function, from the exponential of what is not above zero. -/
def logistic (score : Float) : Float :=
  if 0 ≤ score then 1 / (1 + (-score).exp) else score.exp / (1 + score.exp)

/-- One for the class that the target is the number of, and zero for the others. -/
def indicator (target : Float) (k : Nat) : Float :=
  if (Binary64.ofFloat target).value? = some (k : ℚ) then 1 else 0

/-- What is not below `1e-16`, and otherwise that. -/
def floored (x : Float) : Float :=
  if 1e-16 ≤ x then x else 1e-16

/-- Gradient and hessian for score `k` of a sample, before they are multiplied. -/
def scoreTerms (o : Objective) (scores : List Float) (top target : Float) (k : Nat)
    (score : Float)
    : Float × Float :=
  match o with
  | .rmse => (score - target, 1)
  | .logLoss classes =>
    if 2 < classes then
      let p := (score - logOfSum scores top).exp
      (p - indicator target k, floored (p * (1 - p)))
    else
      let p := logistic score
      (p - target, floored (p * (1 - p)))
  | .poissonDeviance => (score.exp - target, score.exp)

/-- The metric of a sample with these scores and this target. -/
inductive HasMetric : Objective → List Float → Float → Float → Prop
  | squares {score target : Float}
    : HasMetric .rmse [score] target ((score - target) * (score - target))
  | twoClasses {classes : UInt64} {score target : Float} (few : classes ≤ 2)
    : HasMetric (.logLoss classes) [score] target
        ((if 0 < score then score + logOnePlus (-score).exp else logOnePlus score.exp)
          - target * score)
  | manyClasses {classes : UInt64} {scores : List Float} {top target score : Float} {k : Nat}
    (many : 2 < classes) (greatest : Greatest scores top)
    (value : (Binary64.ofFloat target).value? = some (k : ℚ)) (own : scores[k]? = some score)
    : HasMetric (.logLoss classes) scores target (logOfSum scores top - score)
  | counts {score target : Float}
    : HasMetric .poissonDeviance [score] target
        (2 * ((if 0 < target then target * (target.log - score) else 0) - (target - score.exp)))

-------------------------------------------------------------------------------
-- The terms agree with the formulas
-------------------------------------------------------------------------------

/-- The greatest score as it is found, from the first to the last. -/
def greatest (scores : List Float) : Float :=
  scores.foldl larger (-1 / 0)

theorem greatest_spec (scores : List Float) : Greatest scores (greatest scores) := by
  have number : (-1 / 0 : Float).isNaN = false := by decide +kernel
  obtain ⟨above, covers, among⟩ := Double.foldl_larger_spec number scores
  exact ⟨(Double.numbers_of_le above).2, among.symm, covers⟩

theorem larger_leastHessian (x : Float) : larger x leastHessian = floored x := by
  have number : leastHessian.isNaN = false := by decide +kernel
  unfold larger floored
  split
  · next unordered =>
    refine (if_neg fun most => ?_).symm
    cases unordered.symm.trans (Double.numbers_of_le most).2
  · next ordered =>
    rw [Bool.not_eq_true] at ordered
    rw [number, if_neg Bool.false_ne_true]
    have total := Double.not_lt_iff_le ordered number
    split
    · next less => exact (if_neg (mt total.mpr (not_not_intro less))).symm
    · next most => exact (if_pos (total.mp most)).symm

theorem classProbability_logSumExp (scores : List Float) (score : Float)
    : classProbability (logSumExp scores) score
      = (score - logOfSum scores (greatest scores)).exp := rfl

section Classes
variable {classes : UInt64} {target : Float}

/-- A target in the domain of a classification is the number of its class. -/
theorem value?_of_domain (domain : (logLoss classes).targetFault? target = none)
    : (Binary64.ofFloat target).value? = some (classIndex target : ℚ) := by
  obtain ⟨q, value, allowed⟩ := targetFault?_eq_none_iff.mp domain
  obtain ⟨k, below, rfl⟩ := allows_logLoss_iff.mp allowed
  have word := classes.toNat_lt
  rw [value, classIndex, Binary64.toNat_toUInt64 value, Nat.floor_natCast,
    Nat.min_eq_left (by omega)]

theorem indicator_eq (domain : (logLoss classes).targetFault? target = none) (k : Nat)
    : indicator target k = if k = classIndex target then 1 else 0 := by
  simp only [indicator, value?_of_domain domain, Option.some.injEq, Nat.cast_inj, eq_comm]

end Classes

/-- With the greatest score the terms of all classes are the formulas. -/
theorem classTerms_eq {classes : UInt64} (many : 2 < classes) {target : Float}
    (domain : (logLoss classes).targetFault? target = none) (scores : List Float)
    (hessian : Bool)
    : classTerms scores (classIndex target) hessian
      = scores.zipIdx.flatMap fun entry =>
          let (gradient, h) := (logLoss classes).scoreTerms scores (greatest scores) target
            entry.2 entry.1
          if hessian then [gradient, h] else [gradient] := by
  simp only [classTerms, scoreTerms, if_pos many, indicator_eq domain, probabilityHessian,
    larger_leastHessian, classProbability_logSumExp]

/-- An objective has several scores when it tells apart more than two classes. -/
theorem isMulticlass_iff (o : Objective)
    : o.isMulticlass = true ↔ ∃ classes, o = logLoss classes ∧ 2 < classes := by
  have one : (1 : UInt64) < 2 := by decide
  rw [isMulticlass, decide_eq_true_iff]
  cases o with
  | rmse => exact iff_of_false (by decide) (by simp)
  | poissonDeviance => exact iff_of_false (by decide) (by simp)
  | logLoss classes =>
      rw [scoreCount_logLoss]
      simp only [logLoss.injEq, exists_eq_left']
      split
      · next many => exact iff_of_true (UInt64.lt_trans one many) many
      · next few => exact iff_of_false (by decide) few

/-- With one score the terms are the formulas, whatever the other scores would be. -/
theorem gradientHessian_eq {o : Objective} (single : o.isMulticlass = false)
    (scores : List Float) (top target : Float) (k : Nat) (score : Float)
    : o.gradientHessian score target = o.scoreTerms scores top target k score := by
  rw [← Bool.not_eq_true, isMulticlass_iff] at single
  cases o with
  | rmse => rfl
  | poissonDeviance => rfl
  | logLoss classes =>
      have few : ¬ 2 < classes := fun many => single ⟨classes, rfl, many⟩
      simp only [gradientHessian, scoreTerms, if_neg few, logisticTerms, probabilityHessian,
        larger_leastHessian]
      rfl

/-- A sample that an objective can judge has the metric that the formula tells. -/
theorem hasMetric_of_domain {o : Objective} {scores : List Float} {target metric : Float}
    (full : scores.length = o.scoreCount.toNat) (domain : o.targetFault? target = none)
    (found : o.sampleMetric? scores target = some metric)
    : o.HasMetric scores target metric := by
  unfold sampleMetric? at found
  cases many : o.isMulticlass with
  | true =>
      obtain ⟨classes, rfl, several⟩ := (isMulticlass_iff o).mp many
      rw [if_pos many, classMetric?] at found
      obtain ⟨score, own, rfl⟩ := Option.map_eq_some_iff.mp found
      exact .manyClasses several (greatest_spec scores) (value?_of_domain domain) own
  | false =>
      rw [scoreCount_eq_one many] at full
      obtain ⟨score, rfl⟩ := List.length_eq_one_iff.mp full
      rw [many, if_neg Bool.false_ne_true] at found
      obtain rfl := Option.some.inj found
      rw [← Bool.not_eq_true, isMulticlass_iff] at many
      cases o with
      | rmse => exact .squares
      | poissonDeviance => exact .counts
      | logLoss classes =>
          exact .twoClasses (UInt64.not_lt.mp fun several => many ⟨classes, rfl, several⟩)

end BoostZones.Objective
