import BoostZones.Proofs.Bins.Coverage
import BoostZones.Proofs.Sequence.Rows
import BoostZones.Proofs.View.Acceptance

/-!
The shape of an accepted view. A caller promises that a buffer it passes has as many entries as
the counts say; the checks do the rest, so every buffer of the view has exactly the length that
its use needs, and every sample has a bin for which there is an update.
-/

namespace BoostZones

/-- A buffer has at least this length unless it is absent. -/
def HasRoom (buffer : Option (Array α)) (length : Nat) : Prop :=
  ∀ b ∈ buffer, length ≤ b.size

instance (buffer : Option (Array α)) (length : Nat) : Decidable (HasRoom buffer length) :=
  match buffer with
  | none => isTrue nofun
  | some b => decidable_of_iff (length ≤ b.size) (by simp [HasRoom])

/-- What a caller promises of a record: no buffer is shorter than its counts say. Gradients are
not looked at in validation, so nothing is promised of them there.
-/
structure Transfer.Backed (t : Transfer) : Prop where
  update : HasRoom t.update (t.updateBins.toNat * t.scoreCount.toNat)
  words : HasRoom t.words (wordCount t.sampleCount.toNat t.perWord.toInt.toNat)
  targets : HasRoom t.targets t.sampleCount.toNat
  weights : HasRoom t.weights t.sampleCount.toNat
  scores : HasRoom t.scores (t.sampleCount.toNat * t.scoreCount.toNat)
  gradients
    : t.isValidation = false
      → HasRoom t.gradients
          (t.sampleCount.toNat * View.strideOf t.scoreCount.toNat t.wantsHessian)

/-- Every buffer of the view has the length that its use needs, and every sample has a bin of
the update.
-/
structure View.Shaped (v : View) : Prop where
  someScore : 0 < v.scoreCount
  update : v.update.size = v.updateBins * v.scoreCount
  targets : v.targets.size = v.sampleCount
  weights : ∀ w ∈ v.weights, w.size = v.sampleCount
  scores : v.scores.size = v.sampleCount * v.scoreCount
  gradients : ∀ g ∈ v.gradients, g.size = v.sampleCount * v.stride
  covered : v.bins.Covers v.sampleCount
  bins : ∀ i < v.sampleCount, v.bins.binAt i < v.updateBins

-------------------------------------------------------------------------------
-- Accepted records have views of this shape
-------------------------------------------------------------------------------

namespace Transfer

theorem size_cut {buffer : Option (Array Float)} {length : Nat}
    (room : HasRoom buffer length) (present : 0 < length → buffer ≠ none)
    : (cut buffer length).size = length := by
  cases buffer with
  | none =>
      have empty : length = 0 := Nat.eq_zero_of_not_pos fun positive => present positive rfl
      simp [cut, empty]
  | some b =>
      have enough := room b rfl
      simp only [cut, Option.getD_some, Array.size_extract]
      omega

section Accepted
variable {h : Handle} {t : Transfer}

/-- Once the words are there where bins are packed, no sample is without a word. -/
theorem bins_covered (given : 0 < t.sampleCount → 0 < t.perWord → t.words ≠ none)
    (backed : t.Backed)
    : t.bins.Covers t.sampleCount.toNat := by
  unfold Transfer.bins
  dsimp only
  split
  · exact Or.inl rfl
  · next packed =>
    obtain ⟨packed, filled⟩ := not_or.1 packed
    have sampled : 0 < t.sampleCount := UInt64.lt_iff_toNat_lt.2 (Nat.pos_of_ne_zero filled)
    have positive : 0 < t.perWord := by
      rw [Int32.lt_iff_toInt_lt, Int32.toInt_zero]
      omega
    obtain ⟨words, held⟩ := Option.ne_none_iff_exists'.1 (given sampled positive)
    have room := backed.words words held
    have enough := le_wordCount_mul packed t.sampleCount.toNat
    refine Or.inr ?_
    simp only [held, Option.getD_some, Array.size_extract]
    rw [Nat.min_eq_left room, Nat.sub_zero]
    exact enough

/-- The view of an accepted record has the right shape: the caller's promise bounds each buffer
from below, and cutting bounds it from above.
-/
theorem Acceptable.shaped (accepted : t.Acceptable h) (backed : t.Backed)
    : t.toView.Shaped := by
  have covered := bins_covered accepted.words backed
  have filled {k : Nat} (positive : 0 < t.sampleCount.toNat * k) : 0 < t.sampleCount :=
    UInt64.lt_iff_toNat_lt.2 (Nat.pos_of_mul_pos_right positive)
  constructor
  case someScore => exact Nat.pos_of_ne_zero fun zero =>
    accepted.someScore (UInt64.toNat_inj.1 zero)
  case update => exact size_cut backed.update fun _ => accepted.update
  case targets =>
    exact size_cut backed.targets fun positive =>
      accepted.targets (filled (k := 1) (by rwa [Nat.mul_one]))
  case weights =>
    intro w member
    simp only [toView] at member
    split at member
    · obtain ⟨given, held, rfl⟩ := Option.map_eq_some_iff.1 (Option.mem_def.1 member)
      have room := backed.weights given held
      rw [Array.size_extract, Nat.min_eq_left room, Nat.sub_zero]
      rfl
    · cases member
  case scores => exact size_cut backed.scores fun positive => accepted.scores (filled positive)
  case gradients =>
    intro g member
    simp only [toView] at member
    split at member
    · next training =>
      obtain ⟨sampled, training⟩ := Bool.and_eq_true_iff.1 training
      rw [Bool.not_eq_true'] at training
      cases member
      exact size_cut (backed.gradients training) fun positive =>
        accepted.gradients (filled positive) training
    · cases member
  case covered => exact covered
  case bins =>
    intro i below
    exact Nat.lt_of_le_of_lt (PackedBins.binAt_le_maxBin? covered below) accepted.bins

theorem shaped_of_view (backed : t.Backed) {v : View} (viewed : t.view h = .ok v)
    : v.Shaped := by
  obtain ⟨accepted, rfl⟩ := (view_eq_ok_iff h t v).1 viewed
  exact ((objection?_eq_none_iff h t).1 accepted).shaped backed

end Accepted
end Transfer

namespace View.Shaped
variable {v : View}

/-- The update of the sample's bin is a row of the tensor. -/
theorem updateOfBin? (shaped : v.Shaped) {bin : Nat} (below : bin < v.updateBins)
    : v.updateOfBin? bin = some (rowAt v.update.toList v.scoreCount bin) := by
  have held : (bin + 1) * v.scoreCount ≤ v.update.size := by
    rw [shaped.update]
    exact Nat.mul_le_mul_right _ below
  have row := window?_rows v.update v.scoreCount bin 1 held
  rw [Nat.one_mul] at row
  rw [View.updateOfBin?, row]
  simp

theorem length_update (shaped : v.Shaped) {bin : Nat} (below : bin < v.updateBins)
    : (rowAt v.update.toList v.scoreCount bin).length = v.scoreCount := by
  apply length_rowAt
  rw [Array.length_toList, shaped.update]
  exact Nat.mul_le_mul_right _ below

theorem stride_pos (shaped : v.Shaped) : 0 < v.stride := by
  have scored := shaped.someScore
  unfold View.stride View.strideOf
  split <;> omega

theorem exists_weight (shaped : v.Shaped) {i : Nat} (below : i < v.sampleCount)
    : ∃ weight, v.weight? i = some weight := by
  unfold View.weight?
  split
  · exact ⟨1, rfl⟩
  · next weights given =>
    exact ⟨_, Array.getElem?_eq_getElem (by rw [shaped.weights weights given]; exact below)⟩

theorem exists_target (shaped : v.Shaped) {i : Nat} (below : i < v.sampleCount)
    : ∃ target, v.targets[i]? = some target :=
  ⟨_, Array.getElem?_eq_getElem (by rw [shaped.targets]; exact below)⟩

end View.Shaped
end BoostZones
