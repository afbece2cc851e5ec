import BoostZones.Proofs.Kernel.Queue
import BoostZones.Proofs.Kernel.Round
import BoostZones.Proofs.Sequence.Blocks
import Mathlib.Data.List.Basic

/-! The traversal by staged blocks carries out the round. The areas for scores and for gradients
are cut at different lengths but at the same samples, so a block is told by its samples; a block
that is carried out holds the new rows and slots of its samples, and the blocks one after the
other are all samples.
-/

namespace BoostZones.Kernel.Staged

/-- The samples of each block. -/
def sampleBlocks (job : Job) : List (List Nat) :=
  blocksOf blockSize (List.range job.view.sampleCount)

/-- The fresh slots of samples, before anything is written. -/
def freshSlots (job : Job) (gradients : Array Float) (members : List Nat) : List Float :=
  members.flatMap (rowAt (List.replicate gradients.size 0) job.view.stride)

def waitingBlock (job : Job) (members : List Nat) : Block where
  first := members.headD 0
  scores := members.flatMap job.oldRow
  slots := job.view.gradients.map fun gradients => freshSlots job gradients members
  metric := 0

/-- The sum of the terms of samples. -/
def blockSum (job : Job) (members : List Nat) : Float :=
  (members.map job.newTerm).foldl (· + ·) 0

def doneBlock (job : Job) (members : List Nat) : Block where
  first := members.headD 0
  scores := members.flatMap job.newRow
  slots := job.view.gradients.map fun _ => members.flatMap job.newSlot
  metric := if job.view.gradients.isSome then 0 else blockSum job members

/-- The sums of the blocks added up; a call in training has none. -/
def metricOf (job : Job) : Float :=
  if job.view.gradients.isSome then 0
  else (sampleBlocks job).foldl (fun sum members => sum + blockSum job members) (-0.0)

theorem blockSize_pos : 0 < blockSize := by decide

theorem flatten_sampleBlocks (job : Job)
    : (sampleBlocks job).flatten = List.range job.view.sampleCount :=
  flatten_blocksOf ..

theorem flatMap_sampleBlocks (job : Job) (row : Nat → List Float)
    : (sampleBlocks job).flatMap (fun members => members.flatMap row)
      = (List.range job.view.sampleCount).flatMap row := by
  rw [← flatten_sampleBlocks, ← List.flatMap_id, List.flatMap_assoc]
  rfl

theorem eq_range'_of_mem {job : Job} {members : List Nat} (block : members ∈ sampleBlocks job)
    : members = List.range' (members.headD 0) members.length := by
  rw [sampleBlocks, List.range_eq_range'] at block
  exact (eq_range'_of_mem_blocksOf blockSize_pos block).1

theorem lt_of_mem {job : Job} {members : List Nat} (block : members ∈ sampleBlocks job)
    {i : Nat} (member : i ∈ members)
    : i < job.view.sampleCount := by
  have all : i ∈ (sampleBlocks job).flatten := List.mem_flatten.2 ⟨members, block, member⟩
  rw [flatten_sampleBlocks] at all
  exact List.mem_range.1 all

theorem mapIdx_sampleBlocks (job : Job) (f : Nat → List Nat → β)
    : (sampleBlocks job).mapIdx (fun b members => f (b * blockSize) members)
      = (sampleBlocks job).map fun members => f (members.headD 0) members := by
  have place := mapIdx_blocksOf_range' blockSize_pos 0 job.view.sampleCount f
  rw [← List.range_eq_range'] at place
  simp only [Nat.zero_add] at place
  exact place

-------------------------------------------------------------------------------
-- Cutting the areas
-------------------------------------------------------------------------------

/-- Two blocks of scores fit a word, so the lengths of blocks are not cut off. -/
def Fits (job : Job) : Prop :=
  2 * blockSize * job.view.scoreCount < Text.wordLimit

theorem blockLength_scoreCount {job : Job} (fits : Fits job)
    : blockLength job.view.scoreCount = blockSize * job.view.scoreCount := by
  unfold Fits at fits
  rw [Nat.mul_assoc] at fits
  rw [blockLength, Nat.mod_eq_of_lt (by omega)]

theorem blockLength_stride {job : Job} (fits : Fits job)
    : blockLength job.view.stride = blockSize * job.view.stride := by
  have bound : blockSize * job.view.stride ≤ 2 * blockSize * job.view.scoreCount := by
    rw [Nat.mul_comm 2, Nat.mul_assoc]
    apply Nat.mul_le_mul_left
    unfold View.stride View.strideOf
    split <;> omega
  rw [blockLength, Nat.mod_eq_of_lt (Nat.lt_of_le_of_lt bound fits)]

section Ready
variable {job : Job} (ready : job.Ready)
include ready

theorem cutArea?_scores (fits : Fits job)
    : cutArea? job.view.scoreCount job.view.scores.toList
      = some ((sampleBlocks job).map fun members => members.flatMap job.oldRow) := by
  have rows : (List.range job.view.sampleCount).flatMap job.oldRow = job.view.scores.toList :=
    flatMap_rowAt_range ready.shaped.scores
  have positive : blockSize * job.view.scoreCount ≠ 0 :=
    Nat.ne_of_gt (Nat.mul_pos blockSize_pos ready.shaped.someScore)
  rw [cutArea?, blockLength_scoreCount fits, if_neg positive, ← rows,
    blocksOf_flatMap ready.shaped.someScore blockSize_pos _ _ fun i member =>
      ready.length_oldRow (List.mem_range.1 member)]
  rfl

theorem length_freshSlot {gradients : Array Float} (given : job.view.gradients = some gradients)
    {i : Nat} (below : i < job.view.sampleCount)
    : (rowAt (List.replicate gradients.size (0 : Float)) job.view.stride i).length
      = job.view.stride := by
  apply length_rowAt
  rw [List.length_replicate, ready.shaped.gradients gradients given]
  exact Nat.mul_le_mul_right _ below

theorem cutArea?_slots (fits : Fits job) {gradients : Array Float}
    (given : job.view.gradients = some gradients)
    : cutArea? job.view.stride (List.replicate gradients.size 0)
      = some ((sampleBlocks job).map (freshSlots job gradients)) := by
  have rows : freshSlots job gradients (List.range job.view.sampleCount)
      = List.replicate gradients.size 0 :=
    flatMap_rowAt_range (by rw [List.length_replicate, ready.shaped.gradients gradients given])
  have positive : blockSize * job.view.stride ≠ 0 :=
    Nat.ne_of_gt (Nat.mul_pos blockSize_pos ready.shaped.stride_pos)
  rw [cutArea?, blockLength_stride fits, if_neg positive, ← rows, freshSlots,
    blocksOf_flatMap ready.shaped.stride_pos blockSize_pos _ _ fun i member =>
      length_freshSlot ready given (List.mem_range.1 member)]
  rfl

/-- The blocks that wait on the queue, each told by its samples. -/
theorem stage?_eq (fits : Fits job)
    : stage? job = some ((sampleBlocks job).map (waitingBlock job)) := by
  have cut := cutArea?_scores ready fits
  cases given : job.view.gradients with
  | none =>
      have waits : waitingBlock job = fun members =>
          ⟨members.headD 0, members.flatMap job.oldRow, none, 0⟩ := by
        funext members
        simp [waitingBlock, given]
      have placed := mapIdx_sampleBlocks job fun first members =>
        (⟨first, members.flatMap job.oldRow, none, 0⟩ : Block)
      simp only [stage?, cut, given, Bind.bind, pure, Option.bind_some, mapIdx_map, placed, waits]
  | some gradients =>
      have waits : waitingBlock job = fun members =>
          ⟨members.headD 0, members.flatMap job.oldRow, some (freshSlots job gradients members),
            0⟩ := by
        funext members
        simp [waitingBlock, given]
      have slots := cutArea?_slots ready fits given
      have placed := mapIdx_sampleBlocks job fun first members =>
        (⟨first, members.flatMap job.oldRow, some (freshSlots job gradients members), 0⟩ : Block)
      simp only [stage?, cut, given, slots, Bind.bind, pure, Option.bind_some, List.zip_map',
        mapIdx_map, placed, waits]

-------------------------------------------------------------------------------
-- Carrying out a block
-------------------------------------------------------------------------------

theorem rows_waitingBlock {members : List Nat} (block : members ∈ sampleBlocks job)
    : (waitingBlock job members).rows job = members.map fun i => (job.oldRow i, i) := by
  have whole := wholeBlocksOf_rows ready.shaped.someScore members job.oldRow fun i member =>
    ready.length_oldRow (lt_of_mem block member)
  have numbered (first count : Nat) :
      ((List.range' first count).map job.oldRow).zipIdx first
        = (List.range' first count).map fun i => (job.oldRow i, i) := by
    induction count generalizing first with
    | zero => rfl
    | succ count ih => simp [List.range'_succ, ih]
  have same := numbered (members.headD 0) members.length
  rw [← eq_range'_of_mem block] at same
  rw [Block.rows, waitingBlock, whole, same]

theorem drop_oldRows {members : List Nat} (block : members ∈ sampleBlocks job)
    : (members.flatMap job.oldRow).drop (members.length * job.view.scoreCount) = [] := by
  apply List.drop_of_length_le
  exact Nat.le_of_eq (length_flatMap_rows members job.oldRow fun i member =>
    ready.length_oldRow (lt_of_mem block member))

theorem newScores?_eq {i : Nat} (below : i < job.view.sampleCount)
    : Block.newScores? job i (job.oldRow i) = some (job.newRow i) := by
  rw [Block.newScores?, ready.delta?_eq below]
  rfl

theorem validate?_waitingBlock (validation : job.view.gradients = none) {members : List Nat}
    (block : members ∈ sampleBlocks job)
    : (waitingBlock job members).validate? job = some (doneBlock job members) := by
  have left := drop_oldRows ready block
  rw [Block.validate?, rows_waitingBlock ready block,
    mapM_eq_some (g := fun entry => (job.newRow entry.2, job.newTerm entry.2))]
  · simp only [Bind.bind, pure, Option.bind_some, List.map_map, List.flatMap_map, List.length_map,
      Function.comp_def, waitingBlock, doneBlock, blockSum, validation, left, List.append_nil,
      Option.map_none, Option.isSome_none, Bool.false_eq_true, if_false]
  · intro entry member
    obtain ⟨i, inside, rfl⟩ := List.mem_map.1 member
    have below := lt_of_mem block inside
    simp only [newScores?_eq ready below, ready.term?_eq below, Bind.bind, pure, Option.bind_some]

theorem train?_waitingBlock {gradients : Array Float}
    (given : job.view.gradients = some gradients) {members : List Nat}
    (block : members ∈ sampleBlocks job)
    : (waitingBlock job members).train? job (freshSlots job gradients members)
      = some (doneBlock job members) := by
  have fresh {i : Nat} (member : i ∈ members) :=
    length_freshSlot ready given (lt_of_mem block member)
  have slots := wholeBlocksOf_rows ready.shaped.stride_pos members
    (rowAt (List.replicate gradients.size 0) job.view.stride) fun i member => fresh member
  have leftSlots
      : (freshSlots job gradients members).drop (members.length * job.view.stride) = [] := by
    apply List.drop_of_length_le
    exact Nat.le_of_eq (length_flatMap_rows members _ fun i member => fresh member)
  have left := drop_oldRows ready block
  rw [freshSlots] at leftSlots ⊢
  rw [Block.train?, rows_waitingBlock ready block, slots, List.zip_map',
    mapM_eq_some (g := fun entry => (job.newRow entry.1.2, job.newSlot entry.1.2))]
  · simp only [Bind.bind, pure, Option.bind_some, List.map_map, List.flatMap_map, List.length_map,
      Function.comp_def, waitingBlock, doneBlock, given, left, leftSlots, List.append_nil,
      Option.map_some, Option.isSome_some, if_true]
  · intro entry member
    obtain ⟨i, inside, rfl⟩ := List.mem_map.1 member
    have below := lt_of_mem block inside
    simp only [newScores?_eq ready below, ready.slot?_eq below (fresh inside), Bind.bind, pure,
      Option.bind_some]

theorem run?_waitingBlock {members : List Nat} (block : members ∈ sampleBlocks job)
    : (waitingBlock job members).run? job = some (doneBlock job members) := by
  unfold Block.run?
  split
  · next slots held =>
    obtain ⟨gradients, given, rfl⟩ := Option.map_eq_some_iff.1 held
    exact train?_waitingBlock ready given block
  · next absent => exact validate?_waitingBlock ready (Option.map_eq_none_iff.1 absent) block

theorem collect_doneBlocks
    : collect job ((sampleBlocks job).map (doneBlock job)).toArray
      = job.outcome (metricOf job) := by
  have scores
      : overwrite job.view.scores 0 ((List.range job.view.sampleCount).flatMap job.newRow)
        = job.scoresAfter job.view.sampleCount := by
    have all := ready.overwrite_scoresAfter 0 _ (Nat.le_of_eq (Nat.zero_add _))
    simpa only [Job.scoresAfter, refill_zero, Nat.zero_mul, Nat.zero_add, List.range_eq_range']
      using all
  have sums (validation : job.view.gradients = none)
      : ((sampleBlocks job).map (doneBlock job)).foldl (fun sum block => sum + block.metric) (-0.0)
        = (sampleBlocks job).foldl (fun sum members => sum + blockSum job members) (-0.0) := by
    rw [List.foldl_map]
    simp only [doneBlock, validation, Option.isSome_none, Bool.false_eq_true, if_false]
  cases given : job.view.gradients with
  | none =>
      simp only [collect, Job.outcome, Job.gradientsAfter, metricOf, sumBlocks, given, sums given,
        Option.map_none, List.flatMap_map, Option.isSome_none]
      simp only [doneBlock, flatMap_sampleBlocks, scores]
  | some gradients =>
      have fits := ready.shaped.gradients gradients given
      have slots
          : overwrite (Array.replicate gradients.size 0) 0
              ((List.range job.view.sampleCount).flatMap job.newSlot)
            = refill gradients job.view.stride job.newSlot job.view.sampleCount := by
        have size : (Array.replicate gradients.size (0 : Float)).size
            = job.view.sampleCount * job.view.stride := by
          rw [Array.size_replicate, fits]
        have all := overwrite_refill size (fun _ below => ready.length_newSlot below) (k := 0)
          (Nat.le_of_eq (Nat.zero_add _))
        rw [refill_zero, Nat.zero_mul, Nat.zero_add, refill_all size, ← refill_all fits,
          ← List.range_eq_range'] at all
        exact all
      simp only [collect, Job.outcome, Job.gradientsAfter, metricOf, given,
        Option.map_some, List.flatMap_map, Option.isSome_some, if_true]
      simp only [doneBlock, given, Option.map_some, Option.getD_some, flatMap_sampleBlocks,
        scores, slots]

/-- The traversal carries out the round while the lengths of its blocks fit a word. -/
theorem traverse_eq (fits : Fits job) : traverse job = .ok (job.outcome (metricOf job)) := by
  have staged := stage?_eq ready fits
  have ran := runQueue?_eq (fun members block => run?_waitingBlock ready block)
    (List.Perm.refl (List.range (sampleBlocks job).length))
  rw [traverse, staged, Option.bind_some, List.length_map, ran]
  dsimp only
  rw [collect_doneBlocks ready]

end Ready

/-- A call that breaks off leaves the buffers as they were. -/
theorem start_of_error {job : Job} {p : Progress} (broken : traverse job = .error p)
    : p = job.start := by
  unfold traverse at broken
  dsimp only at broken
  split at broken
  · cases broken
  · exact (Except.error.inj broken).symm

theorem gradients_of_ok {job : Job} {p : Progress} (ended : traverse job = .ok p)
    : p.gradients.isSome = job.view.gradients.isSome := by
  unfold traverse at ended
  dsimp only at ended
  split at ended
  · cases ended
    exact Option.isSome_map
  · cases ended

end BoostZones.Kernel.Staged
