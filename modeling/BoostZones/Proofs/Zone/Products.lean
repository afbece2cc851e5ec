import BoostZones.Proofs.Kernel.Wrapping
import BoostZones.Proofs.View.Admission
import BoostZones.Proofs.Zone.Answers
import Mathlib.Algebra.Group.Nat.Defs

/-! What the products of an accepted call come to. Its checks bound everything that is counted by
samples or by bins, so no place in a buffer is the end of a product that wraps around. A block of
the staged zone is longer than what is checked, and without a sample next to nothing is checked of
the scores: the length of a block may wrap around there, and then the staged zone fails alone.
-/

namespace BoostZones

open Kernel

/-- The places that the zones work out from the numbers of samples and of bins fit a word. -/
structure View.PlacesFit (v : View) : Prop where
  scores : ∀ i < v.sampleCount, (i + 1) * v.scoreCount < Text.wordLimit
  slots : ∀ i < v.sampleCount, (i + 1) * v.stride < Text.wordLimit
  updates
    : ∀ i < v.sampleCount, ∃ bin,
        v.bins.bin? i = some bin ∧ (bin + 1) * v.scoreCount < Text.wordLimit
  lanes
    : v.scoreCount = 1
      → ∀ block ∈ Lanes.blocks v.sampleCount,
          block.1 + block.2 ≤ v.sampleCount ∧ (block.1 + block.2) * v.stride < Text.wordLimit

/-- The blocks of the staged zone come to no end: there are none, or one has a row too many. -/
def Kernel.Staged.BreaksOff (v : View) : Prop :=
  Blockless v ∨ Misnumbers v

theorem View.scoreCount_le_stride (v : View) : v.scoreCount ≤ v.stride := by
  unfold View.stride View.strideOf
  split <;> omega

section Lengths
variable {count : Nat}

theorem Kernel.Staged.blockLength_fits_iff
    : blockSize * count < Text.wordLimit ↔ count < 2 ^ 52 := by
  simp only [blockSize, Text.wordLimit, Nat.pow_eq]
  omega

theorem Kernel.Staged.blockLength_eq_zero_iff : blockLength count = 0 ↔ 2 ^ 52 ∣ count := by
  simp only [blockLength, blockSize, Text.wordLimit, Nat.pow_eq]
  omega

theorem Kernel.Lanes.end_le_of_mem {block : Nat × Nat} (member : block ∈ blocks count)
    : block.1 + block.2 ≤ count := by
  obtain ⟨b, inside, rfl⟩ := List.mem_map.mp member
  have inside := List.mem_range.mp inside
  simp only [width] at inside ⊢
  omega

end Lengths

section Viewed
variable {h : Handle} {t : Transfer} {v : View} (viewed : t.view h = .ok v)
include viewed

theorem Transfer.products_of_view
    : v.updateBins * v.scoreCount < Text.wordLimit
      ∧ v.sampleCount * v.scoreCount < Text.wordLimit
      ∧ v.sampleCount * v.stride < Text.wordLimit := by
  obtain ⟨accepted, rfl⟩ := (view_eq_ok_iff h t v).mp viewed
  have acceptable := (objection?_eq_none_iff h t).mp accepted
  obtain ⟨update, scores, gradients⟩ := (products_fit_iff t).mp acceptable.products
  rw [Nat.mul_assoc] at gradients
  exact ⟨update, scores, gradients⟩

theorem Transfer.scoreCount_of_view : v.scoreCount < Text.wordLimit := by
  obtain ⟨-, rfl⟩ := (view_eq_ok_iff h t v).mp viewed
  exact t.scoreCount.toNat_lt

theorem Transfer.placesFit_of_view (backed : t.Backed) : v.PlacesFit := by
  have shaped := shaped_of_view backed viewed
  obtain ⟨update, scores, gradients⟩ := products_of_view viewed
  constructor
  case scores => exact fun i below => Nat.lt_of_le_of_lt (Nat.mul_le_mul_right _ below) scores
  case slots => exact fun i below => Nat.lt_of_le_of_lt (Nat.mul_le_mul_right _ below) gradients
  case updates =>
    intro i below
    refine ⟨v.bins.binAt i, PackedBins.bin?_eq_binAt shaped.covered below, ?_⟩
    exact Nat.lt_of_le_of_lt (Nat.mul_le_mul_right _ (shaped.bins i below)) update
  case lanes =>
    intro _ block member
    have inside := Lanes.end_le_of_mem member
    exact ⟨inside, Nat.lt_of_le_of_lt (Nat.mul_le_mul_right _ inside) gradients⟩

/-- The job of an accepted call works on the view that its checks have made. -/
theorem Kernel.exists_job_of_accepts (accepts : Accepts h t)
    : ∃ job, Job.accept h t = .ok job ∧ job.view = v := by
  obtain ⟨job, accepted⟩ := (accepts_iff h t).mp accepts
  obtain ⟨-, seen, -⟩ := (Job.accept_eq_ok_iff h t job).mp accepted
  cases seen.symm.trans viewed
  exact ⟨job, accepted, rfl⟩

/-- What is written for one sample fits a word if there is a sample. -/
theorem Transfer.stride_fits_iff
    : v.stride < Text.wordLimit
      ↔ ¬(v.sampleCount = 0 ∧ v.hessian = true ∧ 2 ^ 63 ≤ v.scoreCount) := by
  obtain ⟨-, -, gradients⟩ := products_of_view viewed
  have word := scoreCount_of_view viewed
  rcases Nat.eq_zero_or_pos v.sampleCount with unsampled | sampled
  · unfold View.stride View.strideOf
    cases v.hessian with
    | false => simpa [unsampled] using word
    | true =>
        simp only [unsampled, if_true, true_and, Text.wordLimit, Nat.pow_eq]
        omega
  · have one := Nat.le_mul_of_pos_left v.stride sampled
    refine iff_of_true (Nat.lt_of_le_of_lt one gradients) ?_
    intro wraps
    exact Nat.ne_of_gt sampled wraps.1

end Viewed

namespace Zone

section Accepted
variable {device : Device} (works : device.Works) {h : Handle} {t : Transfer} {job : Job}
variable (backed : t.Backed) (accepted : Job.accept h t = .ok job)
include backed accepted

theorem traversal_eq_error_iff (zone : Zone)
    : zone.traversal job = .error job.start
      ↔ zone = .offload ∧ Staged.BreaksOff job.view := by
  have ready := Job.ready_of_accept backed accepted
  obtain ⟨-, viewed, -⟩ := (Job.accept_eq_ok_iff h t job).mp accepted
  obtain ⟨-, scores, gradients⟩ := Transfer.products_of_view viewed
  cases zone with
  | cpu =>
      refine iff_of_false ?_ (fun wrong => nomatch wrong.1)
      rw [traversal, Scalar.traverse_eq ready]
      exact nofun
  | simd =>
      refine iff_of_false ?_ (fun wrong => nomatch wrong.1)
      rw [traversal, Lanes.traverse_eq ready]
      exact nofun
  | offload =>
      rw [traversal, Staged.traverse_eq_error_iff ready scores gradients, Staged.BreaksOff]
      exact (and_iff_right rfl).symm

include works

theorem offload_of_breaksOff (wrong : Staged.BreaksOff job.view)
    : offload.updateOn device (some h) (some t) = (-2, some t) := by
  have broken := (traversal_eq_error_iff backed accepted offload).mpr ⟨rfl, wrong⟩
  exact updateOn_broken offload device accepted (offload.objection?_of_works works job) broken

theorem code_of_accept {zone : Zone} (right : ¬(zone = .offload ∧ Staged.BreaksOff job.view))
    : (zone.updateOn device (some h) (some t)).1 = 0 := by
  have served := zone.objection?_of_works works job
  rcases zone.traversal_cases (Job.ready_of_accept backed accepted) with broken | ⟨p, ended, -⟩
  · exact absurd ((traversal_eq_error_iff backed accepted zone).mp broken) right
  · rw [updateOn_finished zone device accepted served ended]

end Accepted

section Viewed
variable {h : Handle} {t : Transfer} {v : View} (backed : t.Backed) (viewed : t.view h = .ok v)
include backed viewed

/-- Blocks that are not cut short do not break off. -/
theorem not_breaksOff_of_fits (fits : Staged.blockSize * v.stride < Text.wordLimit)
    : ¬Staged.BreaksOff v := by
  have shaped := Transfer.shaped_of_view backed viewed
  have stride := Nat.mul_pos Staged.blockSize_pos shaped.stride_pos
  have row := Nat.mul_pos Staged.blockSize_pos shaped.someScore
  have wider : Staged.blockSize * v.scoreCount ≤ Staged.blockSize * v.stride :=
    Nat.mul_le_mul_left _ v.scoreCount_le_stride
  have scores := Nat.lt_of_le_of_lt wider fits
  intro wrong
  rcases wrong with (zero | ⟨-, zero⟩) | ⟨wraps, -⟩
  · rw [Staged.blockLength, Nat.mod_eq_of_lt scores] at zero
    exact Nat.ne_of_gt row zero
  · rw [Staged.blockLength, Nat.mod_eq_of_lt fits] at zero
    exact Nat.ne_of_gt stride zero
  · exact Nat.not_lt.mpr wraps scores

/-- Without a sample there are no gradients, and no block has a row. -/
theorem breaksOff_iff_of_no_sample (unsampled : v.sampleCount = 0)
    : Staged.BreaksOff v ↔ 2 ^ 52 ∣ v.scoreCount := by
  have scored := (Transfer.shaped_of_view backed viewed).someScore
  have gradients : v.gradients = none := by
    obtain ⟨-, rfl⟩ := (Transfer.view_eq_ok_iff h t v).mp viewed
    have empty : t.sampleCount.toNat = 0 := unsampled
    simp [Transfer.toView, empty]
  rw [← Staged.blockLength_eq_zero_iff, Staged.BreaksOff, Staged.Blockless, Staged.Misnumbers,
    gradients, unsampled]
  constructor
  · intro wrong
    rcases wrong with (empty | ⟨held, -⟩) | ⟨-, -, room⟩
    · exact empty
    · cases held
    · omega
  · intro empty
    exact Or.inl (Or.inl empty)

/-- A zone has the code of the baseline unless it is the staged one and breaks off. -/
theorem code_eq_baseline_iff {device : Device} (works : device.Works) (zone : Zone)
    : (zone.updateOn device (some h) (some t)).1 = (baseline.updateOn device (some h) (some t)).1
      ↔ ¬(zone = .offload ∧ Accepts h t ∧ Staged.BreaksOff v) := by
  by_cases accepts : Accepts h t
  · obtain ⟨job, accepted, rfl⟩ := exists_job_of_accepts viewed accepts
    have first : (baseline.updateOn device (some h) (some t)).1 = 0 :=
      code_of_accept works backed accepted fun wrong => nomatch wrong.1
    rw [first]
    by_cases wrong : zone = .offload ∧ Staged.BreaksOff job.view
    · obtain ⟨rfl, breaks⟩ := wrong
      rw [offload_of_breaksOff works backed accepted breaks]
      have other : (-2 : Int32) ≠ 0 := by decide
      exact iff_of_false other fun right => right ⟨rfl, accepts, breaks⟩
    · refine iff_of_true (code_of_accept works backed accepted wrong) ?_
      exact fun breaks => wrong ⟨breaks.1, breaks.2.2⟩
  · have refused : ¬∃ g ∈ some h, ∃ s ∈ some t, Accepts g s := by
      intro accepted
      obtain ⟨_, ⟨⟩, _, ⟨⟩, accepted⟩ := accepted
      exact accepts accepted
    rw [updateOn_refused zone device refused, updateOn_refused baseline device refused]
    exact iff_of_true rfl fun breaks => accepts breaks.2.1

end Viewed

/-- For every record that passes the checks, the places in the buffers fit a word in all zones. What
is written for one sample does too if there is a sample; without one, the hessians of so many scores
do not. The length of a block is not checked, and fits only if there are not so many scores. While
it fits, all zones have the same code. When it does not, the staged zone may break off and leave the
record as it was, though the other zones take the call; without a sample it does so exactly when
nothing is left of the length of a block.
-/
theorem places_fit_and_codes_agree_unless_blocks_wrap {device : Device} (works : device.Works)
    {h : Handle} {t : Transfer} {v : View} (backed : t.Backed) (viewed : t.view h = .ok v)
    : v.PlacesFit
      ∧ (v.stride < Text.wordLimit
        ↔ ¬(v.sampleCount = 0 ∧ v.hessian = true ∧ 2 ^ 63 ≤ v.scoreCount))
      ∧ (Staged.blockSize * v.scoreCount < Text.wordLimit ↔ v.scoreCount < 2 ^ 52)
      ∧ (Staged.blockSize * v.stride < Text.wordLimit ↔ v.stride < 2 ^ 52)
      ∧ (Staged.blockSize * v.stride < Text.wordLimit → ¬Staged.BreaksOff v)
      ∧ (v.sampleCount = 0 → (Staged.BreaksOff v ↔ 2 ^ 52 ∣ v.scoreCount))
      ∧ (∀ zone : Zone,
          (zone.updateOn device (some h) (some t)).1
            = (baseline.updateOn device (some h) (some t)).1
          ↔ ¬(zone = .offload ∧ Accepts h t ∧ Staged.BreaksOff v))
      ∧ (Accepts h t
        → Staged.BreaksOff v
        → (baseline.updateOn device (some h) (some t)).1 = 0
          ∧ offload.updateOn device (some h) (some t) = (-2, some t)) := by
  refine ⟨?_, ?_, ?_, ?_, ?_, ?_, ?_, ?_⟩
  · exact Transfer.placesFit_of_view viewed backed
  · exact Transfer.stride_fits_iff viewed
  · exact Staged.blockLength_fits_iff
  · exact Staged.blockLength_fits_iff
  · exact not_breaksOff_of_fits backed viewed
  · exact breaksOff_iff_of_no_sample backed viewed
  · exact code_eq_baseline_iff backed viewed works
  · intro accepts breaks
    obtain ⟨job, accepted, rfl⟩ := exists_job_of_accepts viewed accepts
    refine ⟨?_, offload_of_breaksOff works backed accepted breaks⟩
    exact code_of_accept works backed accepted fun wrong => nomatch wrong.1

end Zone

/-- The handle of a classification into so many classes. -/
def Handle.ofClasses (classes : UInt64) : Handle where
  zone := Zone.baseline.id
  objective := (Objective.logLoss classes).code
  link := (Objective.logLoss classes).link.code
  linkParameter := 0
  scoreCount := (Objective.logLoss classes).scoreCount
  maximizes := flag false
  constantHessian := flag false
  gradientConstant := 1

/-- No sample, and one bin with an update for so many scores. -/
def Transfer.ofOneBin (scoreCount : UInt64) : Transfer :=
  { Transfer.empty with
    scoreCount
    update := some (Array.replicate scoreCount.toNat 0)
    updateBins := 1 }

theorem Transfer.ofOneBin_backed (scoreCount : UInt64) : (ofOneBin scoreCount).Backed where
  update := by
    intro update held
    cases held
    rw [Array.size_replicate]
    exact Nat.le_of_eq (Nat.one_mul _)
  words := nofun
  targets := nofun
  weights := nofun
  scores := nofun
  gradients := nofun

namespace Zone

theorem offload_fails_alone_on_so_many_classes
    : Device.host.Works
      ∧ (Transfer.ofOneBin 4503599627370496).Backed
      ∧ (baseline.updateOn .host (some (.ofClasses 4503599627370496))
          (some (.ofOneBin 4503599627370496))).1 = 0
      ∧ (offload.updateOn .host (some (.ofClasses 4503599627370496))
          (some (.ofOneBin 4503599627370496))).1 = -2 := by
  have backed := Transfer.ofOneBin_backed 4503599627370496
  have viewed
      : (Transfer.ofOneBin 4503599627370496).view (.ofClasses 4503599627370496)
        = .ok (Transfer.ofOneBin 4503599627370496).toView := rfl
  have accepts : Accepts (.ofClasses 4503599627370496) (.ofOneBin 4503599627370496) :=
    ⟨.logLoss 4503599627370496, _, rfl, viewed, rfl⟩
  obtain ⟨-, -, -, -, -, wraps, -, apart⟩ :=
    places_fit_and_codes_agree_unless_blocks_wrap Device.host_works backed viewed
  obtain ⟨first, last⟩ := apart accepts ((wraps rfl).mpr (by decide))
  exact ⟨Device.host_works, backed, first, congrArg Prod.fst last⟩

end Zone
end BoostZones
