import BoostZones.Proofs.Bins.Packing
import BoostZones.Proofs.Buffers.Rounds
import Mathlib.Data.Option.NAry

/-! Calls that are split in two. The samples of a call may be given to a zone in two calls, the
first samples in one and the rest in the other, each with words of its own for the bins. The two
calls together are accepted like the whole one, and what they leave is, one after the other, what
the whole one leaves.
-/

namespace BoostZones

section Cutting
variable {k n : Nat} (inside : k ≤ n)
include inside

/-- A buffer holds all samples when its two parts hold theirs. -/
theorem size_parts_iff (width : Nat) (buffer : Array α)
    : buffer.size = n * width
      ↔ (buffer.extract 0 (k * width)).size = k * width
        ∧ (buffer.extract (k * width) buffer.size).size = (n - k) * width := by
  have whole : n * width = k * width + (n - k) * width := by
    rw [← Nat.add_mul, Nat.add_sub_cancel' inside]
  simp only [Array.size_extract]
  omega

theorem flatMap_range_split {row early late : Nat → List α} (front : ∀ i < k, early i = row i)
    (back : ∀ i < n - k, late i = row (k + i))
    : (List.range n).flatMap row
      = (List.range k).flatMap early ++ (List.range (n - k)).flatMap late := by
  have parts : List.range n = List.range k ++ (List.range (n - k)).map (k + ·) := by
    rw [← List.range_add, Nat.add_sub_cancel' inside]
  rw [parts, List.flatMap_append, List.flatMap_map]
  congr 1
  · exact List.flatMap_congr fun i member => (front i (List.mem_range.1 member)).symm
  · exact List.flatMap_congr fun i member => (back i (List.mem_range.1 member)).symm

end Cutting

theorem rowAt_take (xs : List α) (width : Nat) {i k : Nat} (below : i < k)
    : rowAt (xs.take (k * width)) width i = rowAt xs width i := by
  have room : i * width + width ≤ k * width := by
    rw [← Nat.add_one_mul]
    exact Nat.mul_le_mul_right width below
  rw [rowAt, rowAt, List.drop_take, List.take_take, Nat.min_eq_left (by omega)]

theorem rowAt_drop (xs : List α) (width k i : Nat)
    : rowAt (xs.drop (k * width)) width i = rowAt xs width (k + i) := by
  rw [rowAt, rowAt, List.drop_drop, Nat.add_mul]

theorem toList_extract_front (buffer : Array α) (m : Nat)
    : (buffer.extract 0 m).toList = buffer.toList.take m := by
  rw [Array.toList_extract, List.extract_eq_take_drop, List.drop_zero, Nat.sub_zero]

theorem toList_extract_back (buffer : Array α) (m : Nat)
    : (buffer.extract m buffer.size).toList = buffer.toList.drop m := by
  rw [Array.toList_extract, List.extract_eq_take_drop]
  exact List.take_of_length_le (by simp)

namespace Buffers

-------------------------------------------------------------------------------
-- Bins of samples
-------------------------------------------------------------------------------

/-- The words of a call are packed from the bins of its samples; without a feature there are
neither.
-/
inductive Packs : Option (List Nat) → Option (Array UInt64 × Nat) → Prop where
  | absent : Packs none none
  | packed {bins : List Nat} {words : Array UInt64} {perWord : Nat}
    (done : packBins bins perWord = .ok words)
    : Packs (some bins) (some (words, perWord))

/-- The bin of sample `i` before it is packed: zero without a feature. -/
def givenBin? (bins : Option (List Nat)) (i : Nat) : Option Nat :=
  bins.elim (some 0) (·[i]?)

section Packing
variable {b : Buffers} {bins : Option (List Nat)} (packs : Packs bins b.packed)
variable (each : ∀ given ∈ bins, given.length = b.targets.size)
include packs each

theorem bin?_of_packs {i : Nat} (below : i < b.targets.size)
    : b.bins.bin? i = givenBin? bins i := by
  generalize held : b.packed = packed at packs
  cases packs with
  | absent => simp [Buffers.bins, held, givenBin?]
  | packed done =>
      have read := bin?_of_packBins done (each _ rfl ▸ below)
      simpa [Buffers.bins, held, givenBin?] using read

theorem packing_of_packs
    : (∀ p ∈ b.packed, p.2 ≠ 0 ∧ p.2 ≤ maxPerWord)
      ∧ ∀ p ∈ b.packed, p.1.size = wordCount b.targets.size p.2 := by
  generalize held : b.packed = packed at packs
  cases packs with
  | absent => exact ⟨nofun, nofun⟩
  | packed done =>
      have size := size_of_packBins done
      rw [each _ rfl] at size
      exact ⟨by rintro _ ⟨⟩; exact (packBins_eq_ok_iff.1 done).1, by rintro _ ⟨⟩; exact size⟩

end Packing

-------------------------------------------------------------------------------
-- Parts of a call
-------------------------------------------------------------------------------

/-- The buffers of some of the samples, with words of their own: `cut` takes the samples' part of
a buffer, given how many entries a sample has in it.
-/
def restrict (b : Buffers) (o : Objective) (packed : Option (Array UInt64 × Nat))
    (cut : Nat → Array Float → Array Float)
    : Buffers :=
  { b with
    packed
    targets := cut 1 b.targets
    weights := b.weights.map (cut 1)
    scores := cut o.scoreCount.toNat b.scores
    gradients := b.gradients.map (cut (View.strideOf o.scoreCount.toNat b.hessianNeeded)) }

/-- The call on the first `k` samples. -/
def front (b : Buffers) (o : Objective) (k : Nat) (packed : Option (Array UInt64 × Nat))
    : Buffers :=
  b.restrict o packed fun width buffer => buffer.extract 0 (k * width)

/-- The call on the samples after the first `k`. -/
def back (b : Buffers) (o : Objective) (k : Nat) (packed : Option (Array UInt64 × Nat))
    : Buffers :=
  b.restrict o packed fun width buffer => buffer.extract (k * width) buffer.size

/-- The buffers that have a part for each sample, each with how many entries the part has. -/
def perSample (b : Buffers) (o : Objective) : List (Nat × Array Float) :=
  (o.scoreCount.toNat, b.scores)
  :: (b.weights.toList.map fun w => (1, w))
    ++ b.gradients.toList.map fun g => (View.strideOf o.scoreCount.toNat b.hessianNeeded, g)

theorem fit_iff {b : Buffers} {o : Objective}
    : b.Fit o.scoreCount.toNat
      ↔ (b.update.isEmpty = false ∧ b.update.size % o.scoreCount.toNat = 0)
        ∧ (∀ p ∈ b.perSample o, p.2.size = b.targets.size * p.1)
        ∧ (∀ p ∈ b.packed, p.2 ≠ 0 ∧ p.2 ≤ maxPerWord)
        ∧ ∀ p ∈ b.packed, p.1.size = wordCount b.targets.size p.2 := by
  simp only [perSample, List.cons_append, List.forall_mem_cons, List.forall_mem_append,
    List.forall_mem_map, Option.mem_toList, Nat.mul_one]
  constructor
  · intro fit
    exact ⟨fit.update, ⟨fit.scores, fit.weights, fit.gradients⟩, fit.packing, fit.words⟩
  · rintro ⟨update, ⟨scores, weights, gradients⟩, packing, words⟩
    exact { update, scores, weights, gradients, packing, words }

theorem perSample_restrict (b : Buffers) (o : Objective) (packed : Option (Array UInt64 × Nat))
    (cut : Nat → Array Float → Array Float)
    : (b.restrict o packed cut).perSample o
      = (b.perSample o).map fun p => (p.1, cut p.1 p.2) := by
  unfold perSample restrict
  cases b.weights <;> cases b.gradients <;> rfl

theorem addressable_restrict {b : Buffers} (addressable : b.Addressable) (o : Objective)
    (packed : Option (Array UInt64 × Nat)) {cut : Nat → Array Float → Array Float}
    (shrinks : ∀ width buffer, (cut width buffer).size ≤ buffer.size)
    : (b.restrict o packed cut).Addressable where
  update := addressable.update
  targets := Nat.lt_of_le_of_lt (shrinks ..) addressable.targets
  scores := Nat.lt_of_le_of_lt (shrinks ..) addressable.scores
  gradients := by
    intro g member
    obtain ⟨gradients, held, rfl⟩ := Option.map_eq_some_iff.1 (Option.mem_def.1 member)
    exact Nat.lt_of_le_of_lt (shrinks ..) (addressable.gradients gradients held)

/-- The samples of a call are split after the first `k`: every sample has a bin, or none has one,
and the bins of all samples, of the first and of the rest are each packed on their own.
-/
structure Split (b : Buffers) (bins : Option (List Nat)) (k : Nat)
    (frontPacked backPacked : Option (Array UInt64 × Nat))
    : Prop where
  inside : k ≤ b.targets.size
  each : ∀ given ∈ bins, given.length = b.targets.size
  whole : Packs bins b.packed
  front : Packs (bins.map (·.take k)) frontPacked
  back : Packs (bins.map (·.drop k)) backPacked

namespace Split
variable {b : Buffers} {o : Objective} {bins : Option (List Nat)} {k : Nat}
variable {frontPacked backPacked : Option (Array UInt64 × Nat)}
variable (split : Split b bins k frontPacked backPacked)
include split

theorem size_front : (b.front o k frontPacked).targets.size = k := by
  have inside := split.inside
  simp only [Buffers.front, restrict, Array.size_extract]
  omega

theorem size_back : (b.back o k backPacked).targets.size = b.targets.size - k := by
  have inside := split.inside
  simp only [Buffers.back, restrict, Array.size_extract]
  omega

theorem each_front
    : ∀ given ∈ bins.map (·.take k), given.length = (b.front o k frontPacked).targets.size := by
  intro given member
  obtain ⟨all, held, rfl⟩ := Option.map_eq_some_iff.1 (Option.mem_def.1 member)
  rw [List.length_take, split.each all held, split.size_front, Nat.min_eq_left split.inside]

theorem each_back
    : ∀ given ∈ bins.map (·.drop k), given.length = (b.back o k backPacked).targets.size := by
  intro given member
  obtain ⟨all, held, rfl⟩ := Option.map_eq_some_iff.1 (Option.mem_def.1 member)
  rw [List.length_drop, split.each all held, split.size_back]

theorem bin?_front {i : Nat} (below : i < k)
    : (b.front o k frontPacked).bins.bin? i = b.bins.bin? i := by
  have inside := Nat.lt_of_lt_of_le below split.inside
  rw [bin?_of_packs split.whole split.each inside,
    bin?_of_packs (b := b.front o k frontPacked) split.front split.each_front
      (by rwa [split.size_front])]
  cases bins with
  | none => rfl
  | some given => exact List.getElem?_take_of_lt below

theorem bin?_back {i : Nat} (below : i < b.targets.size - k)
    : (b.back o k backPacked).bins.bin? i = b.bins.bin? (k + i) := by
  rw [bin?_of_packs split.whole split.each (by omega),
    bin?_of_packs (b := b.back o k backPacked) split.back split.each_back
      (by rwa [split.size_back])]
  cases bins with
  | none => rfl
  | some given => exact List.getElem?_drop

-------------------------------------------------------------------------------
-- Which calls are well formed
-------------------------------------------------------------------------------

/-- The whole call has buffers of the right lengths when both parts have, buffer by buffer. -/
theorem fit_iff
    : b.Fit o.scoreCount.toNat
      ↔ (b.front o k frontPacked).Fit o.scoreCount.toNat
        ∧ (b.back o k backPacked).Fit o.scoreCount.toNat := by
  have wholePacking := packing_of_packs split.whole split.each
  have frontPacking :=
    packing_of_packs (b := b.front o k frontPacked) split.front split.each_front
  have backPacking := packing_of_packs (b := b.back o k backPacked) split.back split.each_back
  rw [split.size_front] at frontPacking
  rw [split.size_back] at backPacking
  rw [Buffers.fit_iff, Buffers.fit_iff, Buffers.fit_iff, split.size_front, split.size_back]
  constructor
  · rintro ⟨update, sizes, -⟩
    have parts (p : Nat × Array Float) (member : p ∈ b.perSample o) :=
      (size_parts_iff split.inside p.1 p.2).1 (sizes p member)
    refine ⟨⟨update, ?_, frontPacking⟩, update, ?_, backPacking⟩
    · rw [Buffers.front, perSample_restrict, List.forall_mem_map]
      exact fun p member => (parts p member).1
    · rw [Buffers.back, perSample_restrict, List.forall_mem_map]
      exact fun p member => (parts p member).2
  · rintro ⟨⟨update, front, -⟩, -, back, -⟩
    rw [Buffers.front, perSample_restrict, List.forall_mem_map] at front
    rw [Buffers.back, perSample_restrict, List.forall_mem_map] at back
    refine ⟨update, fun p member => ?_, wholePacking⟩
    exact (size_parts_iff split.inside p.1 p.2).2 ⟨front p member, back p member⟩

theorem binsBelow_iff (count : Nat)
    : b.BinsBelow count
      ↔ (b.front o k frontPacked).BinsBelow count ∧ (b.back o k backPacked).BinsBelow count := by
  unfold BinsBelow
  rw [split.size_front, split.size_back]
  constructor
  · intro all
    refine ⟨fun i below => ?_, fun i below => ?_⟩
    · rw [split.bin?_front below]
      exact all i (Nat.lt_of_lt_of_le below split.inside)
    · rw [split.bin?_back below]
      exact all (k + i) (by omega)
  · rintro ⟨early, late⟩ i below
    by_cases before : i < k
    · have bin := early i before
      rwa [split.bin?_front before] at bin
    · obtain ⟨j, rfl⟩ := Nat.exists_eq_add_of_le (Nat.le_of_not_lt before)
      have bin := late j (by omega)
      rwa [split.bin?_back (by omega)] at bin

theorem wellFormed_iff
    : b.WellFormed o
      ↔ (b.front o k frontPacked).WellFormed o ∧ (b.back o k backPacked).WellFormed o := by
  have targets
      : o.checkTargets b.targets.toList = .ok ()
        ↔ o.checkTargets (b.front o k frontPacked).targets.toList = .ok ()
          ∧ o.checkTargets (b.back o k backPacked).targets.toList = .ok () := by
    simp only [Buffers.front, Buffers.back, restrict, toList_extract_front, toList_extract_back,
      Objective.checkTargets_eq_ok_iff, Nat.mul_one]
    rw [← List.forall_mem_append, List.take_append_drop]
  constructor
  · intro formed
    obtain ⟨frontFit, backFit⟩ := split.fit_iff.1 formed.fit
    obtain ⟨frontBins, backBins⟩ := (split.binsBelow_iff (o := o) _).1 formed.bins
    obtain ⟨frontTargets, backTargets⟩ := targets.1 formed.targets
    exact ⟨⟨frontFit, frontBins, frontTargets⟩, ⟨backFit, backBins, backTargets⟩⟩
  · rintro ⟨front, back⟩
    exact {
      fit := split.fit_iff.2 ⟨front.fit, back.fit⟩
      bins := (split.binsBelow_iff _).2 ⟨front.bins, back.bins⟩
      targets := targets.2 ⟨front.targets, back.targets⟩
    }

-------------------------------------------------------------------------------
-- What the calls leave
-------------------------------------------------------------------------------

theorem newScores_front {i : Nat} (below : i < k)
    : (b.front o k frontPacked).newScores o i = b.newScores o i := by
  have bin : (b.front o k frontPacked).bins.binAt i = b.bins.binAt i := by
    rw [PackedBins.binAt, split.bin?_front below, PackedBins.binAt]
  rw [newScores, newScores, bin]
  simp only [Buffers.front, restrict, toList_extract_front, rowAt_take _ _ below]

theorem newScores_back {i : Nat} (below : i < b.targets.size - k)
    : (b.back o k backPacked).newScores o i = b.newScores o (k + i) := by
  have bin : (b.back o k backPacked).bins.binAt i = b.bins.binAt (k + i) := by
    rw [PackedBins.binAt, split.bin?_back below, PackedBins.binAt]
  rw [newScores, newScores, bin]
  simp only [Buffers.back, restrict, toList_extract_back, rowAt_drop]

theorem newGradients_front {i : Nat} (below : i < k)
    : (b.front o k frontPacked).newGradients o i = b.newGradients o i := by
  have target : (b.front o k frontPacked).targets[i]? = b.targets[i]? := by
    rw [← Array.getElem?_toList, ← Array.getElem?_toList]
    simp only [Buffers.front, restrict, toList_extract_front, Nat.mul_one]
    exact List.getElem?_take_of_lt below
  rw [newGradients, newGradients, target]
  simp only [split.newScores_front below]
  rfl

theorem newGradients_back {i : Nat} (below : i < b.targets.size - k)
    : (b.back o k backPacked).newGradients o i = b.newGradients o (k + i) := by
  have target : (b.back o k backPacked).targets[i]? = b.targets[k + i]? := by
    rw [← Array.getElem?_toList, ← Array.getElem?_toList]
    simp only [Buffers.back, restrict, toList_extract_back, Nat.mul_one]
    exact List.getElem?_drop
  rw [newGradients, newGradients, target]
  simp only [split.newScores_back below]
  rfl

theorem scores_afterRound
    : (b.afterRound o).scores
      = ((b.front o k frontPacked).afterRound o).scores
        ++ ((b.back o k backPacked).afterRound o).scores := by
  have rows := flatMap_range_split split.inside (fun _ => split.newScores_front (o := o))
    fun _ => split.newScores_back
  simp only [afterRound, split.size_front, split.size_back, rows, List.append_toArray]

theorem gradients_afterRound
    : (b.afterRound o).gradients
      = Option.map₂ (· ++ ·) ((b.front o k frontPacked).afterRound o).gradients
          ((b.back o k backPacked).afterRound o).gradients := by
  have slots := flatMap_range_split split.inside (fun _ => split.newGradients_front (o := o))
    fun _ => split.newGradients_back
  simp only [afterRound, split.size_front, split.size_back, slots]
  simp only [Buffers.front, Buffers.back, restrict]
  cases b.gradients with
  | none => rfl
  | some gradients => simp

end Split
end Buffers

/-- A call may be split at any sample. The whole call is carried out exactly when the calls on its
two parts are, and then its scores and its gradients are those of the first part followed by those
of the second, whatever words the bins of each call are packed into.
-/
theorem Binding.applyUpdate_split {r : Registry} {zone : Zone} {device : Device} {o : Objective}
    {d : Descriptor} {binding : Binding} (described : o.descriptor = .ok d)
    (own : r.resolveUpdate zone = .ok (zone.updateOn device)) (bound : bind r zone d = .ok binding)
    (works : device.Works) (few : 8192 * o.scoreCount.toNat < Text.wordLimit) {b : Buffers}
    (addressable : b.Addressable) {bins : Option (List Nat)} {k : Nat}
    {frontPacked backPacked : Option (Array UInt64 × Nat)}
    (split : b.Split bins k frontPacked backPacked)
    : (binding.CarriesOut b
        ↔ binding.CarriesOut (b.front o k frontPacked)
          ∧ binding.CarriesOut (b.back o k backPacked))
      ∧ (binding.CarriesOut b
          → (binding.applyUpdate b).1.scores
              = (binding.applyUpdate (b.front o k frontPacked)).1.scores
                ++ (binding.applyUpdate (b.back o k backPacked)).1.scores
            ∧ (binding.applyUpdate b).1.gradients
              = Option.map₂ (· ++ ·)
                  (binding.applyUpdate (b.front o k frontPacked)).1.gradients
                  (binding.applyUpdate (b.back o k backPacked)).1.gradients) := by
  have shrinks (first stop : Nat) (buffer : Array Float)
      : (buffer.extract first stop).size ≤ buffer.size := by
    rw [Array.size_extract]
    omega
  have frontAddressable : (b.front o k frontPacked).Addressable :=
    Buffers.addressable_restrict addressable o frontPacked fun _ _ => shrinks ..
  have backAddressable : (b.back o k backPacked).Addressable :=
    Buffers.addressable_restrict addressable o backPacked fun _ _ => shrinks ..
  have accepted {call : Buffers} (fits : call.Addressable) :=
    carriesOut_iff described own bound works few fits
  have carried {call : Buffers} (fits : call.Addressable) (formed : call.WellFormed o) :=
    applyUpdate_eq_afterRound described own bound works few fits formed
  have parts := split.wellFormed_iff (o := o)
  rw [accepted addressable, accepted frontAddressable, accepted backAddressable]
  refine ⟨parts, fun formed => ?_⟩
  obtain ⟨frontFormed, backFormed⟩ := parts.1 formed
  obtain ⟨_, whole⟩ := carried addressable formed
  obtain ⟨_, front⟩ := carried frontAddressable frontFormed
  obtain ⟨_, back⟩ := carried backAddressable backFormed
  rw [whole, front, back]
  exact ⟨split.scores_afterRound, split.gradients_afterRound⟩

theorem Buffers.twoSamples_split
    : twoSamples.Split (some [0, 1]) 1 (some (#[0], 4)) (some (#[1], 16)) where
  inside := by decide
  each := by
    rintro _ ⟨⟩
    rfl
  whole := .packed (by simp [packBins, blocksOf, wordOf, bitsPerBin, maxPerWord])
  front := .packed (by simp [packBins, blocksOf, wordOf, bitsPerBin, maxPerWord])
  back := .packed (by simp [packBins, blocksOf, wordOf, bitsPerBin, maxPerWord])

theorem Session.ofLanes_splits_twoSamples
    : Buffers.twoSamples.Split (some [0, 1]) 1 (some (#[0], 4)) (some (#[1], 16))
      ∧ ofLanes.binding.CarriesOut .twoSamples
      ∧ (ofLanes.binding.applyUpdate .twoSamples).1.scores
        = (ofLanes.binding.applyUpdate (Buffers.twoSamples.front .rmse 1 (some (#[0], 4)))).1.scores
          ++ (ofLanes.binding.applyUpdate
              (Buffers.twoSamples.back .rmse 1 (some (#[1], 16)))).1.scores := by
  obtain ⟨d, described, own, bound⟩ := bound_ofLanes
  have answer := Binding.applyUpdate_split described own bound Device.host_works (by decide)
    Buffers.twoSamples_addressable Buffers.twoSamples_split
  have carried : ofLanes.binding.CarriesOut .twoSamples :=
    (Binding.carriesOut_iff described own bound Device.host_works (by decide)
      Buffers.twoSamples_addressable).2 Buffers.twoSamples_wellFormed
  exact ⟨Buffers.twoSamples_split, carried, (answer.2 carried).1⟩

end BoostZones
