import BoostZones.Proofs.Buffers.Acceptance
import BoostZones.Proofs.Zone.Rounds

/-! What a call leaves in the caller's buffers. A well-formed call is carried out by every zone,
and each sample then has scores and gradients that are told by the caller's buffers alone: by the
sample's old scores, its bin of the update and its target.
-/

namespace BoostZones

/-- When all rows are new, they replace all of the buffer. -/
theorem overwrite_refill_all {buffer : Array α} {width n : Nat} {row : Nat → List α}
    (size : buffer.size = n * width) (uniform : ∀ i < n, (row i).length = width)
    : overwrite buffer 0 (refill buffer width row n).toList
      = ((List.range n).flatMap row).toArray := by
  have length := length_flatMap_rows (List.range n) row fun i member =>
    uniform i (List.mem_range.1 member)
  rw [List.length_range, ← size] at length
  have rest : buffer.toList.drop buffer.size = [] :=
    List.drop_of_length_le (Nat.le_of_eq Array.length_toList)
  rw [refill_all size, List.toList_toArray]
  apply Array.toList_inj.1
  rw [toList_overwrite _ _ _ (by omega), List.take_zero, List.nil_append, Nat.zero_add, length,
    rest, List.append_nil]

theorem Transfer.cut_of_size_eq {buffer : Array Float} {length : Nat} (size : buffer.size = length)
    : cut (some buffer) length = buffer := by
  rw [cut, Option.getD_some, ← size, Array.extract_size]

/-- Terms that are multiplied by one stay as they are. -/
theorem Objective.map_scaleBy_one (terms : Option (List Float))
    : terms.map (scaleBy 1) = terms := by
  have kept : scaleBy 1 = id := funext fun _ => if_neg (by decide)
  rw [kept, Option.map_id, id]

namespace Buffers

/-- The scores of sample `i` with the update of its bin added. -/
def newScores (b : Buffers) (o : Objective) (i : Nat) : List Float :=
  Kernel.addDelta (rowAt b.scores.toList o.scoreCount.toNat i)
    (rowAt b.update.toList o.scoreCount.toNat (b.bins.binAt i))

/-- The gradients of sample `i` for its new scores, with the hessians if they are wanted. -/
def newGradients (b : Buffers) (o : Objective) (i : Nat) : List Float :=
  (b.targets[i]?.bind fun target =>
    o.gradientTerms? (b.newScores o i) target b.hessianNeeded).getD []

/-- The buffers with the new scores of all samples and, in training, with their gradients. -/
def afterRound (b : Buffers) (o : Objective) : Buffers :=
  { b with
    scores := ((List.range b.targets.size).flatMap (b.newScores o)).toArray
    gradients :=
      b.gradients.map fun _ =>
        ((List.range b.targets.size).flatMap (b.newGradients o)).toArray }

section Carried
variable {b : Buffers} {o : Objective} {d : Descriptor} {zone : Zone} {job : Kernel.Job}
variable (described : o.descriptor = .ok d) (addressable : b.Addressable)
variable (fit : b.Fit o.scoreCount.toNat)
variable (accepted : Kernel.Job.accept (d.toHandle zone) (b.toTransfer o.scoreCount) = .ok job)

section Seen
include addressable fit accepted

theorem scores_of_accept : job.view.scores = b.scores := by
  rw [Transfer.view_of_accept accepted]
  simp only [Transfer.toView, sampleCount_toTransfer addressable]
  exact Transfer.cut_of_size_eq fit.scores

theorem update_of_accept : job.view.update = b.update := by
  rw [Transfer.view_of_accept accepted]
  simp only [Transfer.toView, updateBins_toTransfer addressable]
  exact Transfer.cut_of_size_eq
    (Nat.div_mul_cancel (Nat.dvd_of_mod_eq_zero fit.update.2)).symm

/-- Without a sample there is nothing to write, and the kernel is given no place for it. -/
theorem gradients_of_accept
    : job.view.gradients = if 0 < b.targets.size then b.gradients else none := by
  rw [Transfer.view_of_accept accepted]
  simp only [Transfer.toView, isValidation_toTransfer, sampleCount_toTransfer addressable,
    wantsHessian_toTransfer]
  cases given : b.gradients with
  | none => simp [isValidation, given]
  | some gradients =>
      have size := Transfer.cut_of_size_eq (fit.gradients gradients given)
      by_cases sampled : 0 < b.targets.size <;>
        simp [isValidation, given, sampled, toTransfer, size]

theorem newRow_of_accept {i : Nat} (below : i < b.targets.size)
    : job.newRow i = b.newScores o i := by
  have bins : job.view.bins = b.bins := by
    rw [Transfer.view_of_accept accepted]
    exact bins_toTransfer addressable fit (Nat.lt_of_le_of_lt (Nat.zero_le i) below)
  have count : job.view.scoreCount = o.scoreCount.toNat := Transfer.scoreCount_of_accept accepted
  rw [Kernel.Job.newRow, Kernel.Job.oldRow, Kernel.Job.added, newScores, bins, count,
    scores_of_accept addressable fit accepted, update_of_accept addressable fit accepted]

end Seen

include described addressable fit accepted

theorem newSlot_of_accept (training : b.isValidation = false) {i : Nat}
    (below : i < b.targets.size)
    : job.newSlot i = b.newGradients o i := by
  obtain ⟨known, -, -, constant⟩ := (Kernel.Job.accept_eq_ok_iff _ _ job).1 accepted
  rw [Objective.ofHandle_toHandle described] at known
  have one : (d.toHandle zone).gradientConstant = 1 := by
    obtain ⟨-, rfl⟩ := Objective.descriptor_eq_ok_iff.1 described
    rfl
  have targets : job.view.targets = b.targets := by
    rw [Transfer.view_of_accept accepted]
    exact targets_toTransfer addressable
  have hessian : job.view.hessian = b.hessianNeeded := by
    rw [Transfer.view_of_accept accepted]
    refine wantsHessian_toTransfer.trans ?_
    rw [training, Bool.not_false, Bool.and_true]
  rw [Kernel.Job.newSlot, Kernel.Job.gradients?, newGradients, targets, hessian, constant, one,
    ← Except.ok.inj known, newRow_of_accept addressable fit accepted below]
  simp only [Objective.map_scaleBy_one]

/-- What the kernel writes to the record is read back as the round's scores and gradients. -/
theorem readBack_afterJob (metric : Float)
    : b.readBack (some ((b.toTransfer o.scoreCount).afterJob job metric)) = b.afterRound o := by
  have ready := Kernel.Job.ready_of_accept fit.backed accepted
  have samples : job.view.sampleCount = b.targets.size :=
    (Transfer.sampleCount_of_accept accepted).trans (sampleCount_toTransfer addressable)
  have rows : (List.range b.targets.size).flatMap job.newRow
      = (List.range b.targets.size).flatMap (b.newScores o) :=
    List.flatMap_congr fun i member =>
      newRow_of_accept addressable fit accepted (List.mem_range.1 member)
  have scores
      : overwrite b.scores 0 (job.scoresAfter job.view.sampleCount).toList
        = ((List.range b.targets.size).flatMap (b.newScores o)).toArray := by
    have size := ready.shaped.scores
    have written := overwrite_refill_all size fun _ below => ready.length_newRow below
    rw [samples, rows, scores_of_accept addressable fit accepted] at written
    rwa [Kernel.Job.scoresAfter, samples, scores_of_accept addressable fit accepted]
  have gradients
      : b.gradients.map (fun old =>
          ((b.toTransfer o.scoreCount).afterJob job metric).gradients.getD old)
        = b.gradients.map fun _ =>
            ((List.range b.targets.size).flatMap (b.newGradients o)).toArray := by
    cases given : b.gradients with
    | none => rfl
    | some gradients =>
        have seen := gradients_of_accept addressable fit accepted
        have training : b.isValidation = false := by simp [isValidation, given]
        have slots : (List.range b.targets.size).flatMap job.newSlot
            = (List.range b.targets.size).flatMap (b.newGradients o) :=
          List.flatMap_congr fun i member =>
            newSlot_of_accept described addressable fit accepted training (List.mem_range.1 member)
        by_cases filled : 0 < b.targets.size
        · rw [if_pos filled, given] at seen
          have written := overwrite_refill_all (ready.shaped.gradients gradients seen)
            fun _ below => ready.length_newSlot below
          rw [samples, slots] at written
          simp only [Transfer.afterJob, Transfer.store, Kernel.Job.gradientsAfter, seen, given,
            toTransfer, Option.map_some, Option.getD_some, samples, written]
        · have unsampled := Nat.eq_zero_of_not_pos filled
          have empty : gradients = #[] := by
            have size := fit.gradients gradients given
            rwa [unsampled, Nat.zero_mul, Array.size_eq_zero_iff] at size
          rw [if_neg filled] at seen
          simp [Transfer.afterJob, Transfer.store, Kernel.Job.gradientsAfter, seen, given,
            toTransfer, unsampled, empty]
  simp only [readBack, afterRound, Transfer.afterJob, Transfer.store, Option.bind_some]
    at gradients ⊢
  rw [gradients]
  simp only [toTransfer, Option.map_some, Option.getD_some, scores]

end Carried
end Buffers

namespace Binding

/-- The call is carried out, and not answered with an error. -/
def CarriesOut (binding : Binding) (b : Buffers) : Prop :=
  ∃ metric, (binding.applyUpdate b).2 = .ok metric

section Bound
variable {r : Registry} {zone : Zone} {device : Device} {o : Objective} {d : Descriptor}
variable {binding : Binding} (described : o.descriptor = .ok d)
variable (own : r.resolveUpdate zone = .ok (zone.updateOn device))
variable (bound : bind r zone d = .ok binding) (works : device.Works)
variable (few : 8192 * o.scoreCount.toNat < Text.wordLimit)
variable {b : Buffers} (addressable : b.Addressable)
include described own bound works few addressable

theorem carriesOut_iff : binding.CarriesOut b ↔ b.WellFormed o := by
  constructor
  · rintro ⟨metric, carried⟩
    by_contra unformed
    obtain ⟨reason, answer⟩ :=
      applyUpdate_of_not_wellFormed described own bound addressable unformed
    rw [answer] at carried
    cases carried
  · exact applyUpdate_of_wellFormed described own bound addressable works few

/-- Every zone carries a well-formed call out, and leaves the round in the caller's buffers. -/
theorem applyUpdate_eq_afterRound (formed : b.WellFormed o)
    : ∃ metric, binding.applyUpdate b = (b.afterRound o, .ok metric) := by
  obtain ⟨-, handle, update, count, scored⟩ := own_of_bind described own bound
  have measured := formed.fit.measured addressable.scores addressable.gradients
  have free := Buffers.objection?_eq_none_iff.2 measured
  have accepts :=
    (Kernel.accepts_toTransfer_iff described zone addressable scored formed.fit).2 formed
  obtain ⟨job, accepted⟩ := (Kernel.accepts_iff _ _).1 accepts
  have answer := zone.updateOn_accepted works formed.fit.backed few accepted
  have read := Buffers.readBack_afterJob described addressable formed.fit accepted
    (zone.metricOf job)
  have ok := (ZoneError.check_eq_ok_iff 0 binding.zone).2 rfl
  unfold applyUpdate call
  rw [count, free, update, handle, answer]
  dsimp only
  rw [ok]
  exact ⟨_, Prod.ext read rfl⟩

end Bound
end Binding

/-- The session of the lanes is bound to their own entry. -/
theorem Session.bound_ofLanes
    : ∃ d,
        Objective.rmse.descriptor = .ok d
        ∧ (Registry.empty.add Zone.simd.exports).resolveUpdate .simd
          = .ok (Zone.simd.updateOn .host)
        ∧ bind (Registry.empty.add Zone.simd.exports) .simd d = .ok ofLanes.binding := by
  obtain ⟨d, described, bound, -⟩ := create_eq_ok_iff.1 create_ofLanes
  exact ⟨d, described, rfl, bound⟩

end BoostZones
