import BoostZones.Kernel.Scalar
import BoostZones.Proofs.Kernel.Round
import BoostZones.Proofs.Sequence.Loops

/-! The traversal of the baseline carries out the round. One step takes the buffers from those
after the first samples to those after one sample more, and no step fails.
-/

namespace BoostZones.Kernel.Scalar

/-- The sum of the first terms, from the first sample on; a call in training has none. -/
def metricAfter (job : Job) (k : Nat) : Float :=
  if job.view.gradients.isSome then 0
  else (List.range k).foldl (fun sum i => sum + job.newTerm i) 0

def progressAfter (job : Job) (k : Nat) : Progress where
  scores := job.scoresAfter k
  gradients := job.gradientsAfter k
  metric := metricAfter job k

theorem metricAfter_succ {job : Job} (validation : job.view.gradients = none) (k : Nat)
    : metricAfter job (k + 1) = metricAfter job k + job.newTerm k := by
  simp [metricAfter, validation, List.range_succ]

/-- A step carries out the next sample. -/
theorem step_progressAfter {job : Job} (ready : job.Ready) {k : Nat}
    (below : k < job.view.sampleCount)
    : step job (progressAfter job k) k = .ok (progressAfter job (k + 1)) := by
  have old := ready.window?_oldRow below
  have delta := ready.delta?_eq below
  have new := ready.overwrite_newRow below
  cases given : job.view.gradients with
  | none =>
      have term := ready.term?_eq below
      have next := metricAfter_succ given k
      simp only [step, progressAfter, Job.gradientsAfter, given, Option.map_none, old, delta]
      rw [← Job.newRow, term, new, next]
  | some gradients =>
      have slot := ready.fill_slot given below
      have filled := ready.overwrite_newSlot given below
      simp only [step, progressAfter, Job.gradientsAfter, given, Option.map_some, old, delta]
      rw [← Job.newRow, slot, new]
      simp only [filled, metricAfter, given, Option.isSome_some, if_true]

/-- The traversal ends with all samples carried out, by induction over the steps. -/
theorem traverse_eq {job : Job} (ready : job.Ready)
    : traverse job = .ok (job.outcome (metricAfter job job.view.sampleCount)) := by
  have start : job.start = progressAfter job 0 := by
    cases given : job.view.gradients with
    | none =>
        simp [Job.start, progressAfter, Job.scoresAfter, Job.gradientsAfter, metricAfter, given]
    | some gradients =>
        simp [Job.start, progressAfter, Job.scoresAfter, Job.gradientsAfter, metricAfter, given]
  rw [traverse, start]
  exact foldlM_range (step job) (progressAfter job) fun k below => step_progressAfter ready below

end BoostZones.Kernel.Scalar
