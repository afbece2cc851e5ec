import BoostZones.Proofs.Kernel.Round
import BoostZones.Proofs.Objective.Slots
import BoostZones.Proofs.Sequence.Reading

/-! A record read sample by sample. The scores of a sample are a row of the record's buffer, and
what the sample adds to the metric is told by these scores, its target and its weight. An
accepted record gives the kernels the same samples, however much longer its buffers are.
-/

namespace BoostZones.Transfer

/-- Entry `i` of a buffer, if the buffer is there and has that entry. -/
def itemAt? (buffer : Option (Array Float)) (i : Nat) : Option Float :=
  buffer.bind (·[i]?)

/-- The scores of sample `i`. -/
def scoresOf? (t : Transfer) (i : Nat) : Option (List Float) :=
  t.scores.bind (window? · (i * t.scoreCount.toNat) t.scoreCount.toNat)

/-- The weight of sample `i`: one without weights. -/
def weightOf? (t : Transfer) (i : Nat) : Option Float :=
  t.weights.elim (some 1) (·[i]?)

/-- Numbers written for one sample. -/
def stride (t : Transfer) : Nat :=
  View.strideOf t.scoreCount.toNat t.wantsHessian

/-- The metric of sample `i` with the scores that the record holds, times its weight. -/
def term? (t : Transfer) (o : Objective) (i : Nat) : Option Float := do
  let scores ← t.scoresOf? i
  let target ← itemAt? t.targets i
  let weight ← t.weightOf? i
  let metric ← o.sampleMetric? scores target
  return weight * metric

theorem getElem?_cut (buffer : Option (Array Float)) {length i : Nat} (inside : i < length)
    : (cut buffer length)[i]? = itemAt? buffer i := by
  cases buffer with
  | none => simp [cut, itemAt?]
  | some b =>
      simp only [cut, Option.getD_some, itemAt?, Option.bind_some, Array.getElem?_extract]
      rw [Nat.zero_add]
      by_cases held : i < b.size
      · rw [if_pos (by omega)]
      · rw [Array.getElem?_eq_none (Nat.le_of_not_lt held)]
        split <;> rfl

theorem targets_toView (t : Transfer) {i : Nat} (below : i < t.sampleCount.toNat)
    : t.toView.targets[i]? = itemAt? t.targets i :=
  getElem?_cut t.targets below

theorem weight?_toView (t : Transfer) {i : Nat} (below : i < t.sampleCount.toNat)
    : t.toView.weight? i = t.weightOf? i := by
  have sampled : decide (0 < t.sampleCount.toNat) = true := by
    rw [decide_eq_true_eq]
    omega
  simp only [View.weight?, toView, sampled, if_true]
  cases given : t.weights with
  | none => simp only [weightOf?, given, Option.map_none, Option.elim_none]
  | some w =>
      have read := getElem?_cut t.weights below
      rw [given] at read
      simp only [weightOf?, given, Option.map_some, Option.elim_some]
      exact read

end BoostZones.Transfer
