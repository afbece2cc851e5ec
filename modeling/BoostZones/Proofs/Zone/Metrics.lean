import Mathlib
import BoostZones.Proofs.Sequence.Parts
import BoostZones.Proofs.Zone.Rounds

/-! The metrics of a validation call. All zones add up the same terms: the baseline one after the
other, the lanes in eight parts that are added up as a tree, and the staged blocks block by block.
The three ways of adding are told for any addition, and they come to the same wherever the order
does not matter.
-/

namespace BoostZones

section
open Float.Model

/-- A sum may start at negative zero: nothing is changed by adding to it. -/
theorem negZero_add (x : Float) : -0.0 + x = x := by
  have zero : (-0.0 : Float).toModel.unpack = .zero .negative := rfl
  have same : pack x.toModel.unpack = x.toModel := by
    obtain ⟨⟨⟨bits⟩, valid⟩⟩ := x
    simp only [pack, unpack, UnpackedFloat.pack_unpack_of_valid valid]
  have sum : UnpackedFloat.add Format.binary64 (.zero .negative) x.toModel.unpack
      = x.toModel.unpack := by
    cases x.toModel.unpack with
    | zero sign => cases sign <;> rfl
    | infinity sign => rfl
    | notANumber => rfl
    | finite sign mantissa exponent positive => rfl
  change Float.ofModel (pack (UnpackedFloat.add _ _ _)) = x
  rw [zero, sum, same]

end

namespace Kernel

section Sums
variable (add : α → α → α) (zero : α)

def Scalar.sumWith (terms : List α) : α :=
  terms.foldl add zero

/-- The sum of the terms in lane `j`. -/
def Lanes.laneSum (terms : List α) (j : Nat) : α :=
  (entriesAt (· % width == j) terms).foldl add zero

def Lanes.sumWith (terms : List α) : α :=
  let lane := laneSum add zero terms
  add (add (add (lane 0) (lane 4)) (add (lane 2) (lane 6)))
    (add (add (lane 1) (lane 5)) (add (lane 3) (lane 7)))

/-- How many blocks there are for so many samples. -/
def Staged.blockCount (samples : Nat) : Nat :=
  (samples + blockSize - 1) / blockSize

/-- The sums of the blocks, in the order of the blocks. -/
def Staged.blockSums (terms : List α) : List α :=
  (List.range (blockCount terms.length)).map fun b =>
    (entriesAt (· / blockSize == b) terms).foldl add zero

def Staged.sumWith (terms : List α) : α :=
  match blockSums add zero terms with
  | [] => zero
  | first :: rest => rest.foldl add first

end Sums

-------------------------------------------------------------------------------
-- Where the order does not matter
-------------------------------------------------------------------------------

/-- Every place is in one of the lanes. -/
theorem Lanes.flatMap_lanes_perm (terms : List α)
    : ((List.range width).flatMap fun j => entriesAt (· % width == j) terms).Perm terms :=
  flatMap_entriesAt_perm fun i _ => Nat.mod_lt i width_pos

/-- Every place is in one of the blocks. -/
theorem Staged.flatMap_blocks_perm (terms : List α)
    : ((List.range (blockCount terms.length)).flatMap fun b =>
        entriesAt (· / blockSize == b) terms).Perm terms := by
  apply flatMap_entriesAt_perm
  intro i below
  simp only [blockCount, blockSize]
  omega

section Commutative
variable [AddCommMonoid α] (terms : List α)

theorem Scalar.sumWith_eq_sum : sumWith (· + ·) 0 terms = terms.sum :=
  List.sum_eq_foldl.symm

theorem Lanes.sumWith_eq_sum : sumWith (· + ·) 0 terms = terms.sum := by
  have eight : List.range width = [0, 1, 2, 3, 4, 5, 6, 7] := rfl
  have parts := (flatMap_lanes_perm terms).sum_eq
  rw [eight] at parts
  simp only [List.flatMap_cons, List.flatMap_nil, List.append_nil, List.sum_append] at parts
  rw [← parts]
  simp only [sumWith, laneSum, ← List.sum_eq_foldl]
  abel

theorem Staged.sumWith_eq_sum : sumWith (· + ·) 0 terms = terms.sum := by
  have parts := (flatMap_blocks_perm terms).sum_eq
  have sums : (blockSums (· + ·) 0 terms).sum = terms.sum := by
    rw [← parts, blockSums, List.flatMap_def, List.sum_flatten, List.map_map]
    simp only [← List.sum_eq_foldl]
    rfl
  rw [← sums, sumWith]
  split
  · next empty => rw [empty, List.sum_nil]
  · next first rest whole => rw [whole, List.sum_eq_foldl, List.foldl_cons, zero_add]

end Commutative

-------------------------------------------------------------------------------
-- What the zones add up
-------------------------------------------------------------------------------

/-- A lane holds the sum of its terms, by induction over the samples that are added. -/
theorem Lanes.getElem_foldl_add (term : Nat → Float) (members : List Nat) (sums : Sums)
    {j : Nat} (inside : j < width)
    : (members.foldl (fun sums i => sums.add i (term i)) sums)[j]
      = ((members.filter (· % width == j)).map term).foldl (· + ·) sums[j] := by
  induction members generalizing sums with
  | nil => rfl
  | cons i rest ih =>
      rw [List.foldl_cons, ih, Sums.add, Vector.getElem_set]
      by_cases own : i % width = j
      · simp [own]
      · simp [own]

section Validation
variable {job : Job} (validation : job.view.gradients = none)
include validation

theorem Scalar.metricAfter_eq
    : metricAfter job job.view.sampleCount
      = sumWith (· + ·) 0 ((List.range job.view.sampleCount).map job.newTerm) := by
  rw [sumWith, List.foldl_map, metricAfter, validation]
  rfl

theorem Lanes.total_sumsAfter
    : (sumsAfter job job.view.sampleCount).total
      = sumWith (· + ·) 0 ((List.range job.view.sampleCount).map job.newTerm) := by
  have lane {j : Nat} (inside : j < width)
      : (sumsAfter job job.view.sampleCount)[j]
        = laneSum (· + ·) 0 ((List.range job.view.sampleCount).map job.newTerm) j := by
    rw [laneSum, entriesAt_map_range, sumsAfter, validation]
    refine (getElem_foldl_add job.newTerm _ Sums.zero inside).trans ?_
    rw [Sums.zero, Vector.getElem_replicate]
  simp only [Sums.total, lane]
  rfl

theorem Staged.metricOf_eq (sampled : 0 < job.view.sampleCount)
    : metricOf job
      = sumWith (· + ·) 0 ((List.range job.view.sampleCount).map job.newTerm) := by
  have blocks := blocksOf_range' blockSize_pos 0 job.view.sampleCount
  rw [Nat.zero_mul, ← List.range_eq_range', ← List.range_eq_range'] at blocks
  have sums : (sampleBlocks job).map (blockSum job)
      = blockSums (· + ·) 0 ((List.range job.view.sampleCount).map job.newTerm) := by
    rw [sampleBlocks, blocks, blockSums, List.map_map, List.length_map, List.length_range]
    simp only [entriesAt_map_range]
    rfl
  have added : metricOf job
      = ((sampleBlocks job).map (blockSum job)).foldl (· + ·) (-0.0) := by
    rw [List.foldl_map, metricOf, validation]
    rfl
  rw [added, sums, sumWith]
  split
  · next empty =>
    rw [blockSums, List.map_eq_nil_iff, List.range_eq_nil, List.length_map, List.length_range,
      blockCount, blockSize] at empty
    omega
  · next first rest found => rw [found, List.foldl_cons, negZero_add]

end Validation
end Kernel

/-- In validation every zone adds up the metric terms of the samples, each term once: the baseline
from the first sample to the last, the lanes in lanes, and the staged blocks in blocks. For an
addition whose order does not matter all three come to the same.
-/
theorem Zone.metrics_add_the_same_terms {device : Device} (works : device.Works) {h : Handle}
    {t : Transfer} (backed : t.Backed) (few : 8192 * t.scoreCount.toNat < Text.wordLimit)
    (accepts : Kernel.Accepts h t) (validation : t.isValidation = true)
    (filled : 0 < t.sampleCount)
    : (∃ o done terms,
        Objective.ofHandle h = .ok o
        ∧ Zone.baseline.updateOn device (some h) (some t) = (0, some done)
        ∧ (List.range t.sampleCount.toNat).mapM (done.term? o) = some terms
        ∧ done.metric = Kernel.Scalar.sumWith (· + ·) 0 terms
        ∧ (∃ done,
            Zone.simd.updateOn device (some h) (some t) = (0, some done)
            ∧ done.metric = Kernel.Lanes.sumWith (· + ·) 0 terms)
        ∧ ∃ done,
            Zone.offload.updateOn device (some h) (some t) = (0, some done)
            ∧ done.metric = Kernel.Staged.sumWith (· + ·) 0 terms)
      ∧ ∀ (α : Type) (terms : List α),
          ((List.range Kernel.Lanes.width).flatMap fun j =>
              entriesAt (· % Kernel.Lanes.width == j) terms).Perm terms
          ∧ ((List.range (Kernel.Staged.blockCount terms.length)).flatMap fun b =>
              entriesAt (· / Kernel.Staged.blockSize == b) terms).Perm terms
          ∧ ∀ [AddCommMonoid α],
              Kernel.Lanes.sumWith (· + ·) 0 terms = Kernel.Scalar.sumWith (· + ·) 0 terms
              ∧ Kernel.Staged.sumWith (· + ·) 0 terms
                = Kernel.Scalar.sumWith (· + ·) 0 terms := by
  constructor
  · obtain ⟨job, accepted⟩ := (Kernel.accepts_iff h t).1 accepts
    obtain ⟨known, viewed, -⟩ := (Kernel.Job.accept_eq_ok_iff h t job).1 accepted
    have gradientless := Transfer.gradients_of_validation viewed validation
    have samples := Transfer.sampleCount_of_accept accepted
    have positive : 0 < job.view.sampleCount := by
      rw [samples]
      exact UInt64.lt_iff_toNat_lt.1 filled
    have ended (zone : Zone)
        : zone.updateOn device (some h) (some t) = (0, some (t.afterJob job (zone.metricOf job))) :=
      zone.updateOn_accepted works backed few accepted
    refine ⟨job.objective, _, (List.range t.sampleCount.toNat).map job.newTerm, known,
      ended .baseline, ?_, ?_, ⟨_, ended .simd, ?_⟩, ⟨_, ended .offload, ?_⟩⟩
    · apply mapM_eq_some
      intro i member
      rw [← samples] at member
      exact Transfer.term?_afterJob backed accepted _ (List.mem_range.1 member)
    · rw [← samples]
      exact Kernel.Scalar.metricAfter_eq gradientless
    · rw [← samples]
      exact Kernel.Lanes.total_sumsAfter gradientless
    · rw [← samples]
      exact Kernel.Staged.metricOf_eq gradientless positive
  · intro α terms
    refine ⟨Kernel.Lanes.flatMap_lanes_perm terms, Kernel.Staged.flatMap_blocks_perm terms, ?_⟩
    intro _
    rw [Kernel.Lanes.sumWith_eq_sum, Kernel.Staged.sumWith_eq_sum, Kernel.Scalar.sumWith_eq_sum]
    exact ⟨rfl, rfl⟩

/-- The two samples in validation. -/
def Transfer.twoJudged : Transfer :=
  { twoSamples with validation := 1 }

theorem Transfer.twoJudged_backed : twoJudged.Backed where
  update := by decide
  words := by decide
  targets := by decide
  weights := by decide
  scores := by decide
  gradients := by decide

theorem Zone.metrics_of_twoJudged
    : Kernel.Accepts .squares .twoJudged
      ∧ ∃ o done terms,
          Objective.ofHandle .squares = .ok o
          ∧ Zone.baseline.updateOn .host (some .squares) (some .twoJudged) = (0, some done)
          ∧ (List.range 2).mapM (done.term? o) = some terms
          ∧ ∃ done,
              Zone.offload.updateOn .host (some .squares) (some .twoJudged) = (0, some done)
              ∧ done.metric = Kernel.Staged.sumWith (· + ·) 0 terms := by
  have accepts : Kernel.Accepts .squares .twoJudged :=
    ⟨.rmse, Transfer.twoJudged.toView, rfl, rfl, rfl⟩
  have few : 8192 * Transfer.twoJudged.scoreCount.toNat < Text.wordLimit := by decide
  obtain ⟨o, done, terms, known, ended, read, -, -, staged⟩ :=
    (metrics_add_the_same_terms Device.host_works Transfer.twoJudged_backed few accepts rfl
      (by decide)).1
  exact ⟨accepts, o, done, terms, known, ended, read, staged⟩

end BoostZones
