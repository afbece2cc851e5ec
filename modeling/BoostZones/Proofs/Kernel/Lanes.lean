import BoostZones.Kernel.Lanes
import BoostZones.Proofs.Kernel.Round
import BoostZones.Proofs.Sequence.Blocks
import BoostZones.Proofs.Sequence.Loops
import Mathlib.Data.List.Basic

/-! The traversal by lanes carries out the round. A block takes the buffers from those after the
first samples to those after the whole block, however many samples the last block has; a sample
with several scores is a step of its own.
-/

namespace BoostZones.Kernel.Lanes

/-- The lanes after the first samples, filled in the order of the samples; a call in training
fills none.
-/
def sumsAfter (job : Job) (k : Nat) : Sums :=
  if job.view.gradients.isSome then Sums.zero
  else (List.range k).foldl (fun sums i => sums.add i (job.newTerm i)) Sums.zero

def stateAfter (job : Job) (k : Nat) : State where
  scores := job.scoresAfter k
  gradients := job.gradientsAfter k
  sums := sumsAfter job k

theorem sumsAfter_add {job : Job} (validation : job.view.gradients = none) (k count : Nat)
    : sumsAfter job (k + count)
      = (List.range' k count).foldl (fun sums i => sums.add i (job.newTerm i))
          (sumsAfter job k) := by
  have parts : List.range (k + count) = List.range k ++ List.range' k count := by
    rw [List.range_eq_range', List.range_eq_range', ← List.range'_append_1, Nat.zero_add]
  simp [sumsAfter, validation, parts, List.foldl_append]

-------------------------------------------------------------------------------
-- One score for a sample
-------------------------------------------------------------------------------

def oldScore (job : Job) (i : Nat) : Float :=
  (job.oldRow i).headD 0

def addedScore (job : Job) (i : Nat) : Float :=
  (job.added i).headD 0

def newScore (job : Job) (i : Nat) : Float :=
  oldScore job i + addedScore job i

theorem lt_of_mem_block {first count n i : Nat} (held : first + count ≤ n)
    (member : i ∈ List.range' first count)
    : i < n := by
  have bounds := List.mem_range'_1.1 member
  omega

section Single
variable {job : Job} (ready : job.Ready) (single : job.view.scoreCount = 1)
include ready single

theorem oldRow_single {i : Nat} (below : i < job.view.sampleCount)
    : job.oldRow i = [oldScore job i] := by
  have length := ready.length_oldRow below
  rw [single] at length
  obtain ⟨score, row⟩ := List.length_eq_one_iff.1 length
  simp [oldScore, row]

theorem added_single {i : Nat} (below : i < job.view.sampleCount)
    : job.added i = [addedScore job i] := by
  have length := ready.length_added below
  rw [single] at length
  obtain ⟨score, row⟩ := List.length_eq_one_iff.1 length
  simp [addedScore, row]

theorem newRow_single {i : Nat} (below : i < job.view.sampleCount)
    : job.newRow i = [newScore job i] := by
  rw [Job.newRow, oldRow_single ready single below, added_single ready single below]
  rfl

/-- With one score for a sample, the row of a bin is one entry of the tensor. -/
theorem gathered_single {i : Nat} (below : i < job.view.sampleCount)
    : (job.view.bins.bin? i).bind (job.view.update[·]?) = some (addedScore job i) := by
  have row := added_single ready single below
  rw [Job.added, rowAt, single, Nat.mul_one, List.take_one, List.head?_drop] at row
  rw [PackedBins.bin?_eq_binAt ready.shaped.covered below, Option.bind_some,
    ← Array.getElem?_toList]
  exact Option.toList_eq_singleton_iff.1 row

theorem term_single {i : Nat} (below : i < job.view.sampleCount)
    : ∃ target weight,
        job.view.targets[i]? = some target
        ∧ job.view.weight? i = some weight
        ∧ weight * job.objective.metric (newScore job i) target = job.newTerm i := by
  have term := ready.term?_eq below
  obtain ⟨target, found, -⟩ := ready.exists_target below
  obtain ⟨weight, weighed⟩ := ready.shaped.exists_weight below
  have plain : job.objective.isMulticlass = false := by
    have one : job.objective.scoreCount = 1 :=
      UInt64.toNat_inj.1 (ready.scoreCount.trans single)
    simp [Objective.isMulticlass, one]
  refine ⟨target, weight, found, weighed, ?_⟩
  rw [newRow_single ready single below, Job.term?, found, weighed] at term
  simpa only [Bind.bind, pure, Option.bind_some, Objective.sampleMetric?_single plain,
    Option.some.injEq] using term

section Block
variable {first count : Nat} (held : first + count ≤ job.view.sampleCount)
include held

theorem oldRows_single
    : (List.range' first count).flatMap job.oldRow
      = (List.range' first count).map (oldScore job) := by
  rw [List.map_eq_flatMap]
  exact List.flatMap_congr fun i member =>
    oldRow_single ready single (lt_of_mem_block held member)

theorem newRows_single
    : (List.range' first count).flatMap job.newRow
      = (List.range' first count).map (newScore job) := by
  rw [List.map_eq_flatMap]
  exact List.flatMap_congr fun i member =>
    newRow_single ready single (lt_of_mem_block held member)

/-- The terms of a block go to the lanes of its samples. -/
theorem addTerms?_block (validation : job.view.gradients = none)
    : addTerms? job (sumsAfter job first)
        ((List.range' first count).map fun i => (i, newScore job i))
      = some (sumsAfter job (first + count)) := by
  rw [addTerms?, List.foldlM_map, sumsAfter_add validation]
  apply foldlM_eq_pure
  intro sums i member
  obtain ⟨target, weight, found, weighed, term⟩ :=
    term_single ready single (lt_of_mem_block held member)
  simp only [found, weighed, Bind.bind, pure, Option.bind_some, term]

/-- The slots of a block are filled with the gradients of its samples. -/
theorem fillSlots?_block {gradients : Array Float} (given : job.view.gradients = some gradients)
    : fillSlots? job ((List.range' first count).map fun i => (i, newScore job i))
        ((List.range' first count).flatMap (rowAt gradients.toList job.view.stride))
      = some ((List.range' first count).flatMap job.newSlot) := by
  have slots := blocksOf_rows ready.shaped.stride_pos (List.range' first count)
    (rowAt gradients.toList job.view.stride) fun i member =>
      ready.length_slot given (lt_of_mem_block held member)
  rw [fillSlots?, slots, List.zip_map', flatMapM_eq_some (g := fun entry => job.newSlot entry.1.1),
    List.flatMap_map]
  intro entry member
  obtain ⟨i, inside, rfl⟩ := List.mem_map.1 member
  have below := lt_of_mem_block held inside
  have written := ready.slot?_eq below (ready.length_slot given below)
  rwa [newRow_single ready single below] at written

/-- A block carries out its samples, whatever their number. -/
theorem blockStep_stateAfter
    : blockStep job (stateAfter job first) first count
      = .ok (stateAfter job (first + count)) := by
  have old := ready.window?_scoresAfter first count held
  have new := ready.overwrite_scoresAfter first count held
  rw [single, Nat.mul_one, Nat.mul_one, oldRows_single ready single held] at old
  rw [single, Nat.mul_one, newRows_single ready single held] at new
  have gathered
      : ((List.range' first count).mapM fun i =>
            (job.view.bins.bin? i).bind (job.view.update[·]?))
        = some ((List.range' first count).map (addedScore job)) :=
    mapM_eq_some fun i member => gathered_single ready single (lt_of_mem_block held member)
  have added
      : addDelta ((List.range' first count).map (oldScore job))
          ((List.range' first count).map (addedScore job))
        = (List.range' first count).map (newScore job) := by
    rw [addDelta, List.zipWith_map, List.zipWith_self]
    rfl
  cases given : job.view.gradients with
  | none =>
      have terms := addTerms?_block ready single held given
      simp only [blockStep, stateAfter, Job.gradientsAfter, given, Option.map_none, old, gathered,
        added, new]
      rw [← List.map_prod_left_eq_zip, terms]
  | some gradients =>
      have slots := ready.window?_slots given first count held
      have filled := ready.overwrite_slots given first count held
      have written := fillSlots?_block ready single held given
      simp only [blockStep, stateAfter, Job.gradientsAfter, given, Option.map_some, old, gathered,
        added, new, slots, Option.bind_some]
      rw [← List.map_prod_left_eq_zip, written]
      simp only [filled, sumsAfter, given, Option.isSome_some, if_true]

end Block

/-- All blocks one after the other carry out all samples, by induction over the blocks. -/
theorem foldlM_blocks
    : (blocks job.view.sampleCount).foldlM (fun s (first, count) => blockStep job s first count)
        (stateAfter job 0)
      = .ok (stateAfter job job.view.sampleCount) := by
  have ends := foldlM_range (m := Except State) (n := (job.view.sampleCount + width - 1) / width)
    (fun s b => blockStep job s (b * width) (min width (job.view.sampleCount - b * width)))
    fun b => stateAfter job (min (b * width) job.view.sampleCount)
  have eight : width = 8 := rfl
  rw [blocks, List.foldlM_map]
  simp only [eight] at ends ⊢
  rw [Nat.zero_mul, Nat.zero_min, Nat.min_eq_right (by omega)] at ends
  apply ends
  intro b below
  have inside : b * 8 < job.view.sampleCount := by omega
  have held : b * 8 + min 8 (job.view.sampleCount - b * 8) ≤ job.view.sampleCount := by
    omega
  have next := blockStep_stateAfter ready single held
  have last : b * 8 + min 8 (job.view.sampleCount - b * 8)
      = min ((b + 1) * 8) job.view.sampleCount := by
    omega
  rw [last] at next
  rw [Nat.min_eq_left (Nat.le_of_lt inside)]
  exact next

end Single

theorem sampleStep_stateAfter {job : Job} (ready : job.Ready) {k : Nat}
    (below : k < job.view.sampleCount)
    : sampleStep job (stateAfter job k) k = .ok (stateAfter job (k + 1)) := by
  have old := ready.window?_oldRow below
  have delta := ready.delta?_eq below
  have new := ready.overwrite_newRow below
  cases given : job.view.gradients with
  | none =>
      have term := ready.term?_eq below
      have next := sumsAfter_add given k 1
      simp only [List.range'_one, List.foldl_cons, List.foldl_nil] at next
      simp only [sampleStep, stateAfter, Job.gradientsAfter, given, Option.map_none, old, delta]
      rw [← Job.newRow, term, new, next]
  | some gradients =>
      have slot := ready.fill_slot given below
      have filled := ready.overwrite_newSlot given below
      simp only [sampleStep, stateAfter, Job.gradientsAfter, given, Option.map_some, old, delta]
      rw [← Job.newRow, slot, new]
      simp only [filled, sumsAfter, given, Option.isSome_some, if_true]

theorem traverse_eq {job : Job} (ready : job.Ready)
    : traverse job = .ok (job.outcome (sumsAfter job job.view.sampleCount).total) := by
  have start : (⟨job.view.scores, job.view.gradients, Sums.zero⟩ : State) = stateAfter job 0 := by
    cases given : job.view.gradients with
    | none => simp [stateAfter, Job.scoresAfter, Job.gradientsAfter, sumsAfter, given]
    | some gradients => simp [stateAfter, Job.scoresAfter, Job.gradientsAfter, sumsAfter, given]
  have samples : job.view.scores.size / job.view.scoreCount = job.view.sampleCount := by
    rw [ready.shaped.scores, Nat.mul_div_cancel _ ready.shaped.someScore]
  have several := foldlM_range (sampleStep job) (stateAfter job)
    fun k below => sampleStep_stateAfter ready below
  unfold traverse
  dsimp only
  rw [start, samples, several]
  by_cases single : job.view.scoreCount = 1
  · have size : job.view.scores.size = job.view.sampleCount := by
      rw [ready.shaped.scores, single, Nat.mul_one]
    rw [if_pos single, size, foldlM_blocks ready single]
    rfl
  · rw [if_neg single]
    rfl

end BoostZones.Kernel.Lanes
