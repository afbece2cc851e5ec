import BoostZones.Proofs.Zone.Metrics

/-! The order in which the queue carries out its blocks. The blocks of a call are the chunks of
the two staging areas, one chunk of each for a block, and together they are all samples. In
whatever order the queue takes them, the areas and the blocks' sums end as they do from the first
block to the last.
-/

namespace BoostZones

open Kernel Kernel.Staged

namespace Kernel.Staged

/-- Each block that waits is a chunk of the scores and, in training, the chunk of the gradients
with the same number, and the two have room for the same samples.
-/
structure Chunked (job : Job) (staged : List Block) : Prop where
  scores
    : cutArea? job.view.scoreCount job.view.scores.toList = some (staged.map (·.scores))
  slots
    : ∀ gradients ∈ job.view.gradients, ∃ chunks,
        cutArea? job.view.stride (List.replicate gradients.size 0) = some chunks
        ∧ staged.map (·.slots) = chunks.map some
  paired
    : ∀ block ∈ staged, ∀ slots ∈ block.slots,
        (block.rows job).length = (wholeBlocksOf job.view.stride slots).length

theorem length_sampleBlocks (job : Job)
    : (sampleBlocks job).length = blockCount job.view.sampleCount := by
  rw [sampleBlocks, length_blocksOf blockSize_pos, List.length_range, blockCount]

section Ready
variable {job : Job} (ready : job.Ready)
include ready

theorem chunked_waitingBlocks (fits : Fits job)
    : Chunked job ((sampleBlocks job).map (waitingBlock job)) where
  scores := by
    rw [cutArea?_scores ready fits, List.map_map]
    rfl
  slots := by
    intro gradients given
    refine ⟨_, cutArea?_slots ready fits given, ?_⟩
    rw [List.map_map, List.map_map]
    apply List.map_congr_left
    intro members _
    simp only [Function.comp_apply, waitingBlock, Option.mem_def.1 given, Option.map_some]
  paired := by
    intro waiting member slots held
    obtain ⟨members, block, rfl⟩ := List.mem_map.1 member
    obtain ⟨gradients, given, rfl⟩ := Option.map_eq_some_iff.1 (Option.mem_def.1 held)
    have cut := wholeBlocksOf_rows ready.shaped.stride_pos members
      (rowAt (List.replicate gradients.size 0) job.view.stride)
      fun i inside => length_freshSlot ready given (lt_of_mem block inside)
    rw [freshSlots, cut, rows_waitingBlock ready block, List.length_map, List.length_map]

/-- The samples of the blocks, block after block, are all samples in their order. -/
theorem flatMap_rows_waitingBlocks
    : (((sampleBlocks job).map (waitingBlock job)).flatMap fun block =>
        (block.rows job).map (·.2))
      = List.range job.view.sampleCount := by
  have own : ∀ members ∈ sampleBlocks job,
      ((waitingBlock job members).rows job).map (·.2) = members := by
    intro members block
    rw [rows_waitingBlock ready block, List.map_map]
    exact List.map_id members
  rw [List.flatMap_map, List.flatMap_congr own, ← flatten_sampleBlocks job, List.flatMap_def,
    List.map_id']

end Ready
end Kernel.Staged

/-- The record with the areas copied back and the blocks' sums added up. -/
def Transfer.afterBlocks (t : Transfer) (job : Job) (blocks : Array Block) : Transfer :=
  { t.store (collect job blocks).scores (collect job blocks).gradients with
    metric := (collect job blocks).metric }

/-- The queue may carry out the blocks of an accepted call in any order, each block once: the
blocks and their sums end in the same way, which is the way that the answer is made of. There is
a block for every 4096 samples, the chunks of the two areas pair up, and every sample is in one
block.
-/
theorem Zone.offload_any_schedule {device : Device} {h : Handle} {t : Transfer} {job : Job}
    (backed : t.Backed) (few : 8192 * t.scoreCount.toNat < Text.wordLimit)
    (accepted : Job.accept h t = .ok job) (served : device.objection? job = none)
    : ∃ staged done,
        stage? job = some staged
        ∧ staged.length = blockCount t.sampleCount.toNat
        ∧ Chunked job staged
        ∧ (staged.flatMap fun block => (block.rows job).map (·.2))
          = List.range t.sampleCount.toNat
        ∧ (∀ order : List Nat,
            order.Perm (List.range staged.length)
            → runQueue? job order staged.toArray = some done)
        ∧ Zone.offload.updateOn device (some h) (some t)
          = (0, some (t.afterBlocks job done)) := by
  have ready := Job.ready_of_accept backed accepted
  have fits := fits_of_accept accepted few
  have samples := Transfer.sampleCount_of_accept accepted
  have staged := stage?_eq ready fits
  have ran (order : List Nat)
      (schedule : order.Perm (List.range ((sampleBlocks job).map (waitingBlock job)).length))
      : runQueue? job order ((sampleBlocks job).map (waitingBlock job)).toArray
        = some ((sampleBlocks job).map (doneBlock job)).toArray := by
    rw [List.length_map] at schedule
    exact runQueue?_eq (fun members block => run?_waitingBlock ready block) schedule
  refine ⟨_, _, staged, ?_, chunked_waitingBlocks ready fits, ?_, ran, ?_⟩
  · rw [List.length_map, length_sampleBlocks, samples]
  · rw [flatMap_rows_waitingBlocks ready, samples]
  · have ended
        : Zone.offload.traversal job
          = .ok (collect job ((sampleBlocks job).map (doneBlock job)).toArray) := by
      rw [Zone.traversal, Staged.traverse, staged, Option.bind_some, ran _ (List.Perm.refl _)]
    exact Zone.offload.updateOn_finished device accepted served ended

/-- In training, one sample more than a block has, all of them in one bin. -/
def Transfer.twoBlocks : Transfer :=
  { empty with
    scoreCount := 1
    sampleCount := 4097
    update := some #[1]
    updateBins := 1
    targets := some (Array.replicate 4097 3)
    scores := some (Array.replicate 4097 0)
    gradients := some (Array.replicate 4097 0) }

theorem Transfer.twoBlocks_backed : twoBlocks.Backed where
  update := by decide
  words := nofun
  targets := by
    rintro targets ⟨⟩
    exact Nat.le_of_eq Array.size_replicate.symm
  weights := nofun
  scores := by
    rintro scores ⟨⟩
    exact Nat.le_of_eq Array.size_replicate.symm
  gradients := by
    rintro - gradients ⟨⟩
    exact Nat.le_of_eq Array.size_replicate.symm

theorem Transfer.twoBlocks_accepts : Accepts .squares .twoBlocks := by
  refine ⟨.rmse, twoBlocks.toView, rfl, rfl, ?_⟩
  rw [Objective.checkTargets_eq_ok_iff]
  intro target member
  have seen : target ∈ (Array.replicate 4097 (3 : Float)).extract 0 4097 :=
    Array.mem_toList_iff.1 member
  rw [Array.extract_replicate] at seen
  obtain ⟨-, rfl⟩ := Array.mem_replicate.1 seen
  decide

/-- The second block may be carried out before the first. -/
theorem Zone.offload_any_schedule_of_twoBlocks
    : ∃ job staged done,
        Job.accept .squares .twoBlocks = .ok job
        ∧ stage? job = some staged
        ∧ staged.length = 2
        ∧ runQueue? job [0, 1] staged.toArray = some done
        ∧ runQueue? job [1, 0] staged.toArray = some done
        ∧ Zone.offload.updateOn .host (some .squares) (some .twoBlocks)
          = (0, some (Transfer.twoBlocks.afterBlocks job done)) := by
  obtain ⟨job, accepted⟩ := (accepts_iff _ _).1 Transfer.twoBlocks_accepts
  obtain ⟨staged, done, area, count, -, -, ran, ended⟩ :=
    offload_any_schedule Transfer.twoBlocks_backed (by decide) accepted
      (Device.objection?_of_works Device.host_works job)
  have two : staged.length = 2 := count
  rw [two] at ran
  exact ⟨job, staged, done, accepted, area, two, ran _ (List.Perm.refl _),
    ran _ (List.Perm.swap 0 1 []), ended⟩

end BoostZones
