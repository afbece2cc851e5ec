import BoostZones.Proofs.Crossing
import BoostZones.Proofs.Objective.Handles
import BoostZones.Proofs.Session.Validation

/-! Which calls come through. Two checks stand in the way of a call, the caller's on the lengths
of the buffers and the kernel's on the record that they become. Between them a call is carried
out exactly when it is well formed, and any other call is a bad parameter that changes nothing.
-/

namespace BoostZones

namespace Buffers

/-- The packed bins of the samples. -/
def bins (b : Buffers) : PackedBins :=
  b.packed.elim .none fun (words, perWord) => ⟨words, perWord⟩

/-- Every sample has a bin, and it is one of the first `count`. -/
def BinsBelow (b : Buffers) (count : Nat) : Prop :=
  ∀ i < b.targets.size, ∃ bin, b.bins.bin? i = some bin ∧ bin < count

/-- The buffers have the lengths that the objective asks for, every sample's bin is one of the
update's, and the targets lie in the objective's domain.
-/
structure WellFormed (b : Buffers) (o : Objective) : Prop where
  fit : b.Fit o.scoreCount.toNat
  bins : b.BinsBelow (b.update.size / o.scoreCount.toNat)
  targets : o.checkTargets b.targets.toList = .ok ()

/-- Every length fits a word, as the lengths of all buffers in memory do. -/
structure Addressable (b : Buffers) : Prop where
  update : b.update.size < Text.wordLimit
  targets : b.targets.size < Text.wordLimit
  scores : b.scores.size < Text.wordLimit
  gradients : ∀ g ∈ b.gradients, g.size < Text.wordLimit

-------------------------------------------------------------------------------
-- The record of fitting buffers
-------------------------------------------------------------------------------

section Record
variable {b : Buffers} {scoreCount : UInt64}

section Fitting
variable (fit : b.Fit scoreCount.toNat)
include fit

theorem perWord_le : b.bins.perWord ≤ 64 := by
  cases given : b.packed with
  | none => simp [bins, given, PackedBins.none]
  | some packed =>
      simp only [bins, given, Option.elim_some]
      exact (fit.packing packed given).2

theorem perWord_toTransfer : (b.toTransfer scoreCount).perWord.toInt = b.bins.perWord := by
  have narrow := perWord_le fit
  have same : (b.toTransfer scoreCount).perWord = Int32.ofNat b.bins.perWord := by
    cases given : b.packed <;> simp [toTransfer, bins, given, PackedBins.none]
  rw [same]
  exact Int32.toInt_ofNat_of_lt (by omega)

theorem words_toTransfer (packed : 0 < (b.toTransfer scoreCount).perWord)
    : (b.toTransfer scoreCount).words ≠ none := by
  rw [Int32.lt_iff_toInt_lt, perWord_toTransfer fit] at packed
  cases given : b.packed with
  | none => simp [bins, given, PackedBins.none] at packed
  | some _ => simp [toTransfer, given]

/-- An update of fitting buffers has a bin, since it is not empty. -/
theorem exists_bin (scored : scoreCount ≠ 0) : 0 < b.update.size / scoreCount.toNat := by
  obtain ⟨filled, whole⟩ := fit.update
  have entries : 0 < b.update.size := by simpa [Array.size_pos_iff] using filled
  have scores : 0 < scoreCount.toNat :=
    Nat.pos_of_ne_zero fun zero => scored (UInt64.toNat_inj.1 zero)
  exact Nat.div_pos (Nat.le_of_dvd entries (Nat.dvd_of_mod_eq_zero whole)) scores

end Fitting

section Counted
variable (addressable : b.Addressable)
include addressable

theorem sampleCount_toTransfer
    : (b.toTransfer scoreCount).sampleCount.toNat = b.targets.size :=
  UInt64.toNat_ofNat_of_lt' addressable.targets

theorem updateBins_toTransfer
    : (b.toTransfer scoreCount).updateBins.toNat = b.update.size / scoreCount.toNat :=
  UInt64.toNat_ofNat_of_lt' (Nat.lt_of_le_of_lt (Nat.div_le_self _ _) addressable.update)

theorem targets_toTransfer : (b.toTransfer scoreCount).toView.targets = b.targets := by
  simp only [Transfer.toView, sampleCount_toTransfer addressable]
  simp [Transfer.cut, toTransfer]

/-- Where the products of counts fit a word, buffers of the computed lengths fit. -/
theorem Measured.fit (measured : b.Measured scoreCount.toNat)
    (products : ∀ p ∈ (b.toTransfer scoreCount).products, p.1 * p.2 < Text.wordLimit)
    : b.Fit scoreCount.toNat := by
  simp only [Transfer.products, List.forall_mem_cons, sampleCount_toTransfer addressable]
    at products
  obtain ⟨-, scores, gradients, -⟩ := products
  constructor
  case update => exact measured.update
  case scores => exact measured.scores.trans (wordLength_of_lt scores)
  case weights => exact measured.weights
  case gradients =>
    intro g held
    have training : b.isValidation = false := by simp [isValidation, Option.mem_def.1 held]
    rw [wantsHessian_toTransfer, training, Bool.not_false, Bool.and_true, Nat.mul_assoc]
      at gradients
    exact (measured.gradients g held).trans (wordLength_of_lt gradients)
  case packing => exact measured.packing
  case words => exact measured.words

variable (fit : b.Fit scoreCount.toNat)
include fit

/-- No product of counts is greater than the length of a buffer. -/
theorem products_toTransfer
    : ∀ p ∈ (b.toTransfer scoreCount).products, p.1 * p.2 < Text.wordLimit := by
  have scores : b.targets.size * scoreCount.toNat < Text.wordLimit := by
    rw [← fit.scores]
    exact addressable.scores
  simp only [Transfer.products, scoreCount_toTransfer, wantsHessian_toTransfer,
    sampleCount_toTransfer addressable, updateBins_toTransfer addressable, List.forall_mem_cons]
  refine ⟨?_, scores, ?_, List.forall_mem_nil _⟩
  · exact Nat.lt_of_le_of_lt (Nat.div_mul_le_self _ _) addressable.update
  · cases given : b.gradients with
    | none => simpa [isValidation, given] using scores
    | some gradients =>
        have long := addressable.gradients gradients given
        rw [fit.gradients gradients given, View.strideOf, ← Nat.mul_assoc] at long
        simpa [isValidation, given] using long

/-- With a sample the record has the bins of the buffers. -/
theorem bins_toTransfer (filled : 0 < b.targets.size)
    : (b.toTransfer scoreCount).bins = b.bins := by
  have narrow := perWord_toTransfer fit
  unfold Transfer.bins
  rw [sampleCount_toTransfer addressable, narrow, Int.toNat_natCast]
  dsimp only
  cases given : b.packed with
  | none => simp [bins, given, PackedBins.none]
  | some packed =>
      obtain ⟨packs, -⟩ := fit.packing packed given
      have words := fit.words packed given
      simp only [bins, given, Option.elim_some, toTransfer, Option.map_some, Option.getD_some]
      rw [if_neg (not_or.2 ⟨packs, Nat.pos_iff_ne_zero.1 filled⟩), ← words, Array.extract_size]

/-- The scan over the bins of the record accepts them when each is one of the update's. -/
theorem maxBin?_toTransfer (scored : scoreCount ≠ 0)
    : ((b.toTransfer scoreCount).bins.maxBin? (b.toTransfer scoreCount).sampleCount.toNat).getD 0
          < (b.toTransfer scoreCount).updateBins.toNat
      ↔ b.BinsBelow (b.update.size / scoreCount.toNat) := by
  have covered := Transfer.bins_covered (fun _ => words_toTransfer fit) fit.backed
  rw [PackedBins.maxBin?_lt_iff covered, updateBins_toTransfer addressable]
  rw [sampleCount_toTransfer addressable] at covered ⊢
  -- Without a sample the record has no bins at all, so they are compared below a sample only.
  have read {i : Nat} (below : i < b.targets.size)
      : b.bins.bin? i = some ((b.toTransfer scoreCount).bins.binAt i) := by
    rw [← bins_toTransfer addressable fit (Nat.lt_of_le_of_lt (Nat.zero_le i) below)]
    exact PackedBins.bin?_eq_binAt covered below
  constructor
  · intro below i inside
    exact ⟨_, read inside, below.2 i inside⟩
  · intro inside
    refine ⟨exists_bin fit scored, fun i below => ?_⟩
    obtain ⟨bin, held, small⟩ := inside i below
    rw [read below] at held
    cases held
    exact small

/-- Of a record made from fitting buffers, the kernel has only the bins left to check. -/
theorem acceptable_toTransfer_iff {h : Handle} (scored : scoreCount ≠ 0)
    (same : h.scoreCount = scoreCount)
    : (b.toTransfer scoreCount).Acceptable h
      ↔ b.BinsBelow (b.update.size / scoreCount.toNat) := by
  rw [← maxBin?_toTransfer addressable fit scored]
  refine ⟨fun acceptable => acceptable.bins, fun bins => ?_⟩
  have narrow := perWord_le fit
  constructor
  case someScore => exact scored
  case sameScores => exact same.symm
  case packing =>
    rw [Int32.le_iff_toInt_le, Int32.le_iff_toInt_le, perWord_toTransfer fit]
    exact ⟨Int.natCast_nonneg _, Int.ofNat_le.2 narrow⟩
  case update => exact Option.some_ne_none _
  case someBin =>
    intro binless
    have several := exists_bin fit scored
    rw [← updateBins_toTransfer addressable, binless] at several
    exact absurd several (Nat.lt_irrefl 0)
  case products => exact products_toTransfer addressable fit
  case scores => exact fun _ => Option.some_ne_none _
  case targets => exact fun _ => Option.some_ne_none _
  case gradients =>
    intro _ training
    rw [isValidation_toTransfer] at training
    exact Option.isSome_iff_ne_none.1 (Option.isNone_eq_false_iff.1 training)
  case words => exact fun _ => words_toTransfer fit
  case bins => exact bins

end Counted
end Record
end Buffers

/-- Of fitting buffers, the kernel accepts those that are well formed. -/
theorem Kernel.accepts_toTransfer_iff {o : Objective} {d : Descriptor}
    (described : o.descriptor = .ok d) (zone : Zone) {b : Buffers} (addressable : b.Addressable)
    (scored : o.scoreCount ≠ 0) (fit : b.Fit o.scoreCount.toNat)
    : Accepts (d.toHandle zone) (b.toTransfer o.scoreCount) ↔ b.WellFormed o := by
  have count : (d.toHandle zone).scoreCount = o.scoreCount := by
    obtain ⟨-, rfl⟩ := Objective.descriptor_eq_ok_iff.1 described
    rfl
  have acceptable := Buffers.acceptable_toTransfer_iff addressable fit scored count
  rw [← Transfer.objection?_eq_none_iff] at acceptable
  unfold Accepts
  rw [Objective.ofHandle_toHandle described]
  constructor
  · intro accepts
    rcases accepts with ⟨_, view, ⟨⟩, viewed, targets⟩
    obtain ⟨free, rfl⟩ := (Transfer.view_eq_ok_iff _ _ _).1 viewed
    rw [Buffers.targets_toTransfer addressable] at targets
    exact ⟨fit, acceptable.1 free, targets⟩
  · intro formed
    have free := acceptable.2 formed.bins
    refine ⟨o, _, rfl, (Transfer.view_eq_ok_iff _ _ _).2 ⟨free, rfl⟩, ?_⟩
    rw [Buffers.targets_toTransfer addressable]
    exact formed.targets

namespace Binding

section Bound
variable {r : Registry} {zone : Zone} {device : Device} {o : Objective} {d : Descriptor}
variable {binding : Binding} (described : o.descriptor = .ok d)
variable (own : r.resolveUpdate zone = .ok (zone.updateOn device))
variable (bound : bind r zone d = .ok binding)
include described own bound

/-- What a binding has of a zone that is registered with its own entry. -/
theorem own_of_bind
    : binding.zone = zone
      ∧ binding.handle = d.toHandle zone
      ∧ binding.update = zone.updateOn device
      ∧ binding.handle.scoreCount = o.scoreCount
      ∧ o.scoreCount ≠ 0 := by
  obtain ⟨scored, there, handle, resolved, -⟩ := bind_eq_ok_iff_resolved.1 bound
  obtain ⟨-, rfl⟩ := Objective.descriptor_eq_ok_iff.1 described
  have update := Except.ok.inj (resolved.symm.trans own)
  exact ⟨there, handle, update, by rw [handle]; rfl, scored⟩

variable {b : Buffers} (addressable : b.Addressable)
include addressable

/-- A well-formed call is carried out. -/
theorem applyUpdate_of_wellFormed (works : device.Works)
    (few : 8192 * o.scoreCount.toNat < Text.wordLimit) (formed : b.WellFormed o)
    : ∃ metric, (binding.applyUpdate b).2 = .ok metric := by
  obtain ⟨-, handle, update, count, scored⟩ := own_of_bind described own bound
  have measured := formed.fit.measured addressable.scores addressable.gradients
  have free := Buffers.objection?_eq_none_iff.2 measured
  have accepts :=
    (Kernel.accepts_toTransfer_iff described zone addressable scored formed.fit).2 formed
  obtain ⟨job, accepted⟩ := (Kernel.accepts_iff _ _).1 accepts
  have answer := zone.updateOn_accepted works formed.fit.backed few accepted
  have ok := (ZoneError.check_eq_ok_iff 0 binding.zone).2 rfl
  unfold applyUpdate call
  rw [count, free, update, handle, answer]
  dsimp only
  rw [ok]
  exact ⟨_, rfl⟩

/-- A call that is not well formed is a bad parameter, and the buffers come back as they went. -/
theorem applyUpdate_of_not_wellFormed (unformed : ¬ b.WellFormed o)
    : ∃ reason, binding.applyUpdate b = (b, .error (.invalidParameter reason)) := by
  obtain ⟨there, handle, update, count, scored⟩ := own_of_bind described own bound
  unfold applyUpdate call
  rw [count]
  cases unfit : b.objection? o.scoreCount.toNat with
  | some reason => exact ⟨reason, rfl⟩
  | none =>
      -- The computed lengths are right, so what is wrong is left for the kernel to find: a product
      -- that was cut to a word, or what is in the buffers.
      have measured := Buffers.objection?_eq_none_iff.1 unfit
      have refused
          : ¬ ∃ h ∈ some (d.toHandle zone),
              ∃ t ∈ some (b.toTransfer o.scoreCount), Kernel.Accepts h t := by
        intro accepted
        rcases accepted with ⟨_, ⟨⟩, _, ⟨⟩, accepts⟩
        have fit := measured.fit addressable (Kernel.acceptable_of_accepts accepts).products
        exact unformed
          ((Kernel.accepts_toTransfer_iff described zone addressable scored fit).1 accepts)
      rw [update, handle, zone.updateOn_refused device refused]
      dsimp only
      rw [b.readBack_toTransfer]
      exact ⟨_, rfl⟩

/-- A call is carried out exactly when it is well formed. Any other call is a bad parameter,
whether the lengths of the buffers or the kernel's checks stand against it, and nothing is changed.
-/
theorem applyUpdate_ok_iff_wellFormed (works : device.Works)
    (few : 8192 * o.scoreCount.toNat < Text.wordLimit)
    : ((∃ metric, (binding.applyUpdate b).2 = .ok metric) ↔ b.WellFormed o)
      ∧ (¬ b.WellFormed o
          → ∃ reason, binding.applyUpdate b = (b, .error (.invalidParameter reason))) := by
  have refused := applyUpdate_of_not_wellFormed described own bound addressable
  refine ⟨⟨?_, applyUpdate_of_wellFormed described own bound addressable works few⟩, refused⟩
  intro ended
  by_contra unformed
  obtain ⟨metric, carried⟩ := ended
  obtain ⟨reason, answer⟩ := refused unformed
  rw [answer] at carried
  cases carried

end Bound
end Binding

namespace Buffers

/-- Two samples in training, one in each bin of an update. -/
def twoSamples : Buffers where
  update := #[1, 2]
  packed := some (#[256], 8)
  targets := #[3, 5]
  weights := none
  scores := #[0, 0]
  gradients := some #[0, 0]
  hessianNeeded := false

theorem twoSamples_wellFormed : twoSamples.WellFormed .rmse where
  fit := {
    update := by decide
    scores := by decide
    weights := by decide
    gradients := by decide
    packing := by decide
    words := by decide
  }
  bins := by
    unfold BinsBelow
    decide
  targets := rfl

theorem twoSamples_addressable : twoSamples.Addressable where
  update := by decide
  targets := by decide
  scores := by decide
  gradients := by decide

end Buffers

theorem Session.ofLanes_carries_out_twoSamples
    : Buffers.twoSamples.WellFormed ofLanes.objective
      ∧ ∃ metric, (ofLanes.binding.applyUpdate .twoSamples).2 = .ok metric := by
  obtain ⟨d, described, bound, -⟩ := create_eq_ok_iff.1 create_ofLanes
  have own
      : (Registry.empty.add Zone.simd.exports).resolveUpdate .simd
        = .ok (Zone.simd.updateOn .host) := rfl
  have answer := Binding.applyUpdate_ok_iff_wellFormed described own bound
    Buffers.twoSamples_addressable Device.host_works (by decide)
  exact ⟨Buffers.twoSamples_wellFormed, answer.1.2 Buffers.twoSamples_wellFormed⟩

end BoostZones
