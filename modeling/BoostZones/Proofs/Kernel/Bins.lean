import BoostZones.Kernel.Lanes
import BoostZones.Kernel.Scalar
import BoostZones.Kernel.Staged
import BoostZones.Proofs.Sequence.Loops

/-! What a traversal reads of the bins. Only the bins of the samples tell something: jobs that
differ in no other bins are carried out alike, whether they come to an end or break off. The
scores and the targets of a job are cut to the samples, so no traversal comes to a sample that
is not there without noticing.
-/

namespace BoostZones.Kernel

/-- The job with other bins. -/
def Job.withBins (job : Job) (bins : PackedBins) : Job :=
  { job with view := { job.view with bins } }

/-- There are no more scores and targets than the samples have. -/
structure Job.Trimmed (job : Job) : Prop where
  scores : job.view.scores.size ≤ job.view.sampleCount * job.view.scoreCount
  targets : job.view.targets.size ≤ job.view.sampleCount

namespace Job.Trimmed
variable {job : Job} (trimmed : job.Trimmed) {i : Nat} (outside : job.view.sampleCount ≤ i)
include trimmed outside

/-- Past the samples there is no target, and without a target there are no gradients. -/
theorem slot?_of_outside (scores slot : List Float) : job.slot? i scores slot = none := by
  rw [slot?, Array.getElem?_eq_none (Nat.le_trans trimmed.targets outside), Option.bind_none]

theorem term?_of_outside (scores : List Float) : job.term? i scores = none := by
  rw [term?, Array.getElem?_eq_none (Nat.le_trans trimmed.targets outside)]
  rfl

end Job.Trimmed

/-- Other bins that are the same for the samples of the job. -/
def Job.SameBins (job : Job) (bins : PackedBins) : Prop :=
  ∀ i < job.view.sampleCount, bins.bin? i = job.view.bins.bin? i

/-- What the lanes come to, before their sums are added up. -/
def Lanes.last (job : Job) : Except State State :=
  let start : State := ⟨job.view.scores, job.view.gradients, Sums.zero⟩
  if job.view.scoreCount = 1 then
    (blocks job.view.scores.size).foldlM (fun s (first, count) => blockStep job s first count)
      start
  else (List.range (job.view.scores.size / job.view.scoreCount)).foldlM (sampleStep job) start

theorem Lanes.traverse_eq_map (job : Job)
    : traverse job = ((last job).map State.toProgress).mapError State.toProgress := by
  unfold traverse last
  dsimp only
  split
  all_goals
    next ended =>
    rw [ended]
    rfl

section Alike
variable {job : Job} {bins : PackedBins} (same : job.SameBins bins)
include same

theorem Job.bin?_withBins {i : Nat} (inside : i < job.view.sampleCount)
    : (job.withBins bins).view.bins.bin? i = job.view.bins.bin? i :=
  same i inside

theorem Job.delta?_withBins {i : Nat} (inside : i < job.view.sampleCount)
    : (job.withBins bins).delta? i = job.delta? i := by
  rw [Job.delta?, Job.bin?_withBins same inside]
  rfl

-------------------------------------------------------------------------------
-- One sample after the other
-------------------------------------------------------------------------------

theorem Scalar.step_withBins {i : Nat} (inside : i < job.view.sampleCount) (p : Progress)
    : step (job.withBins bins) p i = step job p i := by
  simp only [step, Job.delta?_withBins same inside]
  rfl

theorem Scalar.traverse_withBins : traverse (job.withBins bins) = traverse job :=
  foldlM_congr (fun _ member => step_withBins same (List.mem_range.1 member)) job.start

-------------------------------------------------------------------------------
-- Lanes
-------------------------------------------------------------------------------

theorem Lanes.blockStep_withBins {first count : Nat}
    (inside : first + count ≤ job.view.sampleCount) (s : State)
    : blockStep (job.withBins bins) s first count = blockStep job s first count := by
  have gathered
      : (List.range' first count).mapM (fun i =>
            ((job.withBins bins).view.bins.bin? i).bind ((job.withBins bins).view.update[·]?))
        = (List.range' first count).mapM fun i =>
            (job.view.bins.bin? i).bind (job.view.update[·]?) :=
    mapM_congr fun i member => by
      have below := (List.mem_range'_1.1 member).2
      rw [Job.bin?_withBins same (Nat.lt_of_lt_of_le below inside)]
      rfl
  simp only [blockStep, gathered]
  rfl

theorem Lanes.sampleStep_withBins {i : Nat} (inside : i < job.view.sampleCount) (s : State)
    : sampleStep (job.withBins bins) s i = sampleStep job s i := by
  simp only [sampleStep, Job.delta?_withBins same inside]
  rfl

theorem Lanes.last_withBins (trimmed : job.Trimmed) : last (job.withBins bins) = last job := by
  have scores := trimmed.scores
  by_cases single : job.view.scoreCount = 1
  · refine (if_pos single).trans (Eq.trans ?_ (if_pos single).symm)
    rw [single, Nat.mul_one] at scores
    refine foldlM_congr (fun block member s => ?_) _
    obtain ⟨b, held, rfl⟩ := List.mem_map.1 member
    have rows : (b + 1) * width ≤ job.view.scores.size + width - 1 :=
      (Nat.le_div_iff_mul_le width_pos).1 (List.mem_range.1 held)
    have positive := width_pos
    rw [Nat.add_one_mul] at rows
    have inside : b * width + min width (job.view.scores.size - b * width)
        ≤ job.view.sampleCount := by omega
    exact blockStep_withBins same inside s
  · refine (if_neg single).trans (Eq.trans ?_ (if_neg single).symm)
    refine foldlM_congr (fun i member s => sampleStep_withBins same ?_ s) _
    refine Nat.lt_of_lt_of_le (List.mem_range.1 member) ?_
    exact Nat.div_le_of_le_mul (by rwa [Nat.mul_comm])

theorem Lanes.traverse_withBins (trimmed : job.Trimmed)
    : traverse (job.withBins bins) = traverse job := by
  rw [traverse_eq_map, traverse_eq_map, last_withBins same trimmed]

-------------------------------------------------------------------------------
-- Staged blocks
-------------------------------------------------------------------------------

/-- The new scores of a block's sample are the same where something can be made of them. -/
theorem Staged.newScores?_withBins {i : Nat} (old : List Float) (f : List Float → Option α)
    (past : job.view.sampleCount ≤ i → ∀ new, f new = none)
    : (Block.newScores? (job.withBins bins) i old).bind f
      = (Block.newScores? job i old).bind f := by
  by_cases inside : i < job.view.sampleCount
  · rw [Block.newScores?, Job.delta?_withBins same inside]
    rfl
  · have nothing := past (Nat.le_of_not_lt inside)
    rw [Option.bind_eq_none_iff.2 fun new _ => nothing new,
      Option.bind_eq_none_iff.2 fun new _ => nothing new]

section Trimmed
variable (trimmed : job.Trimmed)
include trimmed

theorem Staged.train?_withBins (block : Block) (slots : List Float)
    : block.train? (job.withBins bins) slots = block.train? job slots := by
  refine congrArg (Option.bind · _) (mapM_congr fun ((old, i), slot) _ => ?_)
  refine newScores?_withBins same old _ fun outside new => ?_
  have nothing : (job.withBins bins).slot? i new slot = none :=
    trimmed.slot?_of_outside outside new slot
  rw [nothing]
  rfl

theorem Staged.validate?_withBins (block : Block)
    : block.validate? (job.withBins bins) = block.validate? job := by
  refine congrArg (Option.bind · _) (mapM_congr fun (old, i) _ => ?_)
  refine newScores?_withBins same old _ fun outside new => ?_
  have nothing : (job.withBins bins).term? i new = none := trimmed.term?_of_outside outside new
  rw [nothing]
  rfl

theorem Staged.run?_withBins (block : Block)
    : block.run? (job.withBins bins) = block.run? job := by
  unfold Block.run?
  split
  · exact train?_withBins same trimmed block _
  · exact validate?_withBins same trimmed block

theorem Staged.runQueue?_withBins (order : List Nat) (blocks : Array Block)
    : runQueue? (job.withBins bins) order blocks = runQueue? job order blocks := by
  refine foldlM_congr (fun b _ blocks => ?_) blocks
  simp only [step?, run?_withBins same trimmed]

theorem Staged.traverse_withBins : traverse (job.withBins bins) = traverse job := by
  simp only [traverse, runQueue?_withBins same trimmed]
  rfl

end Trimmed
end Alike

end BoostZones.Kernel
