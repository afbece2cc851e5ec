import BoostZones.Proofs.Buffers.Rounds

/-! The same call in three modes. Training with hessians, training without them and validation
accept the same calls and leave the same scores; the gradients of the two trainings are the same,
only that with hessians each is followed by its hessian.
-/

namespace BoostZones

/-- Of the entries for a score the gradient is the first. -/
theorem Objective.getElem?_scoreEntries_zero (o : Objective) (constant : Float) (hessian : Bool)
    (scores : List Float) (top target : Float) (k : Nat) (score : Float)
    : (o.scoreEntries constant hessian scores top target k score)[0]?
      = some (scaled constant (o.scoreTerms scores top target k score).1) := by
  unfold scoreEntries
  cases hessian <;> rfl

namespace Buffers

/-- The call with this place for gradients, or without one; hessians may be asked for. -/
def inMode (b : Buffers) (gradients : Option (Array Float)) (hessianNeeded : Bool) : Buffers :=
  { b with gradients, hessianNeeded }

/-- Numbers written for one score. -/
def perScore (hessianNeeded : Bool) : Nat :=
  if hessianNeeded then 2 else 1

section Rows
variable {b : Buffers} {o : Objective} (formed : b.WellFormed o) {i : Nat}
variable (below : i < b.targets.size)
include formed below

theorem length_newScores : (b.newScores o i).length = o.scoreCount.toNat := by
  obtain ⟨bin, read, inside⟩ := formed.bins i below
  have old : (rowAt b.scores.toList o.scoreCount.toNat i).length = o.scoreCount.toNat := by
    apply length_rowAt
    rw [Array.length_toList, formed.fit.scores]
    exact Nat.mul_le_mul_right _ below
  have added : (rowAt b.update.toList o.scoreCount.toNat bin).length = o.scoreCount.toNat := by
    apply length_rowAt
    rw [Array.length_toList]
    exact Nat.le_trans (Nat.mul_le_mul_right _ inside) (Nat.div_mul_le_self _ _)
  rw [newScores, PackedBins.binAt, read, Option.getD_some, Kernel.addDelta, List.length_zipWith,
    old, added, Nat.min_self]

/-- The gradients of a sample, score by score and alike in every mode. -/
theorem exists_newGradients
    : ∃ top target, ∀ gradients hessianNeeded,
        (b.inMode gradients hessianNeeded).newGradients o i
        = (b.newScores o i).zipIdx.flatMap fun entry =>
            o.scoreEntries 1 hessianNeeded (b.newScores o i) top target entry.2 entry.1 := by
  have held : b.targets[i]? = some b.targets[i] := Array.getElem?_eq_getElem below
  have member : b.targets[i] ∈ b.targets.toList := Array.mem_toList_iff.2 (Array.getElem_mem below)
  have domain := (o.checkTargets_eq_ok_iff _).1 formed.targets _ member
  refine ⟨Objective.greatest (b.newScores o i), b.targets[i], ?_⟩
  intro gradients hessianNeeded
  have terms := Objective.scaleBy_gradientTerms? (length_newScores formed below) domain 1
    hessianNeeded
  rw [Objective.map_scaleBy_one] at terms
  have found : (b.inMode gradients hessianNeeded).newGradients o i
      = (b.targets[i]?.bind fun target =>
          o.gradientTerms? (b.newScores o i) target hessianNeeded).getD [] := rfl
  rw [found, held, Option.bind_some, terms, Option.getD_some]

theorem length_newGradients (gradients : Option (Array Float)) (hessianNeeded : Bool)
    : ((b.inMode gradients hessianNeeded).newGradients o i).length
      = o.scoreCount.toNat * perScore hessianNeeded := by
  obtain ⟨top, target, slots⟩ := exists_newGradients formed below
  rw [slots, length_flatMap_rows _ _ fun _ _ => Objective.length_scoreEntries ..,
    List.length_zipIdx, length_newScores formed below]
  rfl

/-- The gradient for a score is the same number in every mode, where the mode puts it. -/
theorem exists_gradient {k : Nat} (inner : k < o.scoreCount.toNat)
    : ∃ gradient, ∀ place hessianNeeded,
        ((b.inMode (some place) hessianNeeded).afterRound o).gradients.bind
            (·[(i * o.scoreCount.toNat + k) * perScore hessianNeeded]?)
          = some gradient := by
  obtain ⟨top, target, slots⟩ := exists_newGradients formed below
  obtain ⟨score, held⟩ : ∃ score, (b.newScores o i)[k]? = some score :=
    ⟨_, List.getElem?_eq_getElem (by rwa [length_newScores formed below])⟩
  refine ⟨Objective.scaled 1 (o.scoreTerms (b.newScores o i) top target k score).1, ?_⟩
  intro place hessianNeeded
  have positive : 0 < perScore hessianNeeded := by cases hessianNeeded <;> decide
  have numbered : (b.newScores o i).zipIdx[k]? = some (score, k) := by simp [held]
  have uniform (entry : Float × Nat)
      : (o.scoreEntries 1 hessianNeeded (b.newScores o i) top target entry.2 entry.1).length
        = perScore hessianNeeded :=
    o.length_scoreEntries 1 hessianNeeded (b.newScores o i) top target entry.2 entry.1
  -- The slot of sample `i` is a row of all gradients, and the entries of score `k` are a row of
  -- the slot; the gradient is the first of them.
  have entries := rowAt_flatMap (fun entry _ => uniform entry) numbered
  have slot := rowAt_flatMap
    (fun j member =>
      length_newGradients formed (List.mem_range.1 member) (some place) hessianNeeded)
    (List.getElem?_range below)
  have inside : k * perScore hessianNeeded + 0 < o.scoreCount.toNat * perScore hessianNeeded := by
    have last : (k + 1) * perScore hessianNeeded ≤ o.scoreCount.toNat * perScore hessianNeeded :=
      Nat.mul_le_mul_right _ inner
    rw [Nat.add_one_mul] at last
    omega
  have whole : (i * o.scoreCount.toNat + k) * perScore hessianNeeded
      = i * (o.scoreCount.toNat * perScore hessianNeeded) + (k * perScore hessianNeeded + 0) := by
    rw [Nat.add_mul, Nat.mul_assoc, Nat.add_zero]
  have written : ((b.inMode (some place) hessianNeeded).afterRound o).gradients
      = some ((List.range b.targets.size).flatMap
          ((b.inMode (some place) hessianNeeded).newGradients o)).toArray := rfl
  rw [written, Option.bind_some, List.getElem?_toArray, whole, ← getElem?_rowAt _ inside, slot,
    slots, ← getElem?_rowAt _ positive, entries, o.getElem?_scoreEntries_zero]

end Rows

-------------------------------------------------------------------------------
-- Which calls are well formed
-------------------------------------------------------------------------------

/-- With a place of the right length for the gradients, or without one, a call is well formed in
one mode when it is in another.
-/
theorem wellFormed_inMode {b : Buffers} {o : Objective} {gradients other : Option (Array Float)}
    {hessianNeeded asked : Bool} (formed : (b.inMode gradients hessianNeeded).WellFormed o)
    (length
      : ∀ g ∈ other, g.size = b.targets.size * o.scoreCount.toNat * perScore asked)
    : (b.inMode other asked).WellFormed o where
  fit := {
    formed.fit with
    gradients := by
      intro g member
      rw [length g member, Nat.mul_assoc]
      rfl
  }
  bins := formed.bins
  targets := formed.targets

theorem addressable_inMode {b : Buffers} {gradients other : Option (Array Float)}
    {hessianNeeded : Bool} (asked : Bool)
    (addressable : (b.inMode gradients hessianNeeded).Addressable)
    (short : ∀ g ∈ other, ∃ longer ∈ gradients, g.size ≤ longer.size)
    : (b.inMode other asked).Addressable where
  update := addressable.update
  targets := addressable.targets
  scores := addressable.scores
  gradients := by
    intro g member
    obtain ⟨longer, held, room⟩ := short g member
    exact Nat.lt_of_le_of_lt room (addressable.gradients longer held)

end Buffers

/-- A call in training without hessians, in training with hessians and in validation: all three
are carried out or none is. When they are, they leave the same scores, and the gradient of every
sample for every score is one number, which stands before its hessian when hessians are wanted.
-/
theorem Binding.applyUpdate_modes_agree {r : Registry} {zone : Zone} {device : Device}
    {o : Objective} {d : Descriptor} {binding : Binding} (described : o.descriptor = .ok d)
    (own : r.resolveUpdate zone = .ok (zone.updateOn device)) (bound : bind r zone d = .ok binding)
    (works : device.Works) (few : 8192 * o.scoreCount.toNat < Text.wordLimit) {b : Buffers}
    {plain full : Array Float} (plainLength : plain.size = b.targets.size * o.scoreCount.toNat)
    (fullLength : full.size = 2 * (b.targets.size * o.scoreCount.toNat))
    (addressable : (b.inMode (some full) true).Addressable) (hessianNeeded : Bool)
    : (binding.CarriesOut (b.inMode (some plain) false)
        ↔ binding.CarriesOut (b.inMode none hessianNeeded))
      ∧ (binding.CarriesOut (b.inMode (some full) true)
        ↔ binding.CarriesOut (b.inMode none hessianNeeded))
      ∧ (binding.CarriesOut (b.inMode none hessianNeeded)
          → (binding.applyUpdate (b.inMode (some plain) false)).1.scores
              = (binding.applyUpdate (b.inMode none hessianNeeded)).1.scores
            ∧ (binding.applyUpdate (b.inMode (some full) true)).1.scores
              = (binding.applyUpdate (b.inMode none hessianNeeded)).1.scores
            ∧ ∀ i < b.targets.size, ∀ k < o.scoreCount.toNat, ∃ gradient,
                (binding.applyUpdate (b.inMode (some plain) false)).1.gradients.bind
                    (·[i * o.scoreCount.toNat + k]?)
                  = some gradient
                ∧ (binding.applyUpdate (b.inMode (some full) true)).1.gradients.bind
                    (·[2 * (i * o.scoreCount.toNat + k)]?)
                  = some gradient) := by
  have ofPlain
      : ∀ g ∈ some plain,
        g.size = b.targets.size * o.scoreCount.toNat * Buffers.perScore false := by
    rintro _ ⟨⟩
    exact plainLength.trans (Nat.mul_one _).symm
  have ofFull
      : ∀ g ∈ some full,
        g.size = b.targets.size * o.scoreCount.toNat * Buffers.perScore true := by
    rintro _ ⟨⟩
    exact fullLength.trans (Nat.mul_comm ..)
  have plainAddressable : (b.inMode (some plain) false).Addressable := by
    refine Buffers.addressable_inMode false addressable ?_
    rintro _ ⟨⟩
    exact ⟨full, rfl, by omega⟩
  have validationAddressable : (b.inMode none hessianNeeded).Addressable :=
    Buffers.addressable_inMode hessianNeeded addressable nofun
  have accepted {call : Buffers} (fits : call.Addressable) :=
    carriesOut_iff described own bound works few fits
  have carried {call : Buffers} (fits : call.Addressable) (formed : call.WellFormed o) :=
    applyUpdate_eq_afterRound described own bound works few fits formed
  rw [accepted plainAddressable, accepted addressable, accepted validationAddressable]
  refine ⟨⟨fun formed => ?_, fun formed => ?_⟩, ⟨fun formed => ?_, fun formed => ?_⟩,
    fun formed => ?_⟩
  · exact Buffers.wellFormed_inMode formed nofun
  · exact Buffers.wellFormed_inMode formed ofPlain
  · exact Buffers.wellFormed_inMode formed nofun
  · exact Buffers.wellFormed_inMode formed ofFull
  have plainFormed := Buffers.wellFormed_inMode formed ofPlain
  obtain ⟨_, validated⟩ := carried validationAddressable formed
  obtain ⟨_, withoutHessians⟩ := carried plainAddressable plainFormed
  obtain ⟨_, withHessians⟩ := carried addressable (Buffers.wellFormed_inMode formed ofFull)
  rw [validated, withoutHessians, withHessians]
  refine ⟨rfl, rfl, fun i below k inner => ?_⟩
  obtain ⟨gradient, entry⟩ := Buffers.exists_gradient plainFormed below inner
  refine ⟨gradient, ?_, ?_⟩
  · have found := entry plain false
    rwa [Buffers.perScore, if_neg Bool.false_ne_true, Nat.mul_one] at found
  · have found := entry full true
    rwa [Buffers.perScore, if_pos rfl, Nat.mul_comm] at found

theorem Buffers.twoSamples_modes_addressable
    : (twoSamples.inMode (some #[0, 0, 0, 0]) true).Addressable where
  update := by decide
  targets := by decide
  scores := by decide
  gradients := by decide

theorem Session.ofLanes_modes_agree_twoSamples
    : let validation := Buffers.twoSamples.inMode none false
      let plain := Buffers.twoSamples.inMode (some #[0, 0]) false
      let full := Buffers.twoSamples.inMode (some #[0, 0, 0, 0]) true
      ofLanes.binding.CarriesOut validation
      ∧ (ofLanes.binding.applyUpdate full).1.scores
        = (ofLanes.binding.applyUpdate validation).1.scores
      ∧ ∃ gradient,
        (ofLanes.binding.applyUpdate plain).1.gradients.bind (·[1]?) = some gradient
        ∧ (ofLanes.binding.applyUpdate full).1.gradients.bind (·[2]?) = some gradient := by
  obtain ⟨d, described, own, bound⟩ := bound_ofLanes
  have plainLength : (#[0, 0] : Array Float).size = 2 * Objective.rmse.scoreCount.toNat := rfl
  have answer := Binding.applyUpdate_modes_agree described own bound Device.host_works (by decide)
    plainLength rfl Buffers.twoSamples_modes_addressable false
  have training : (Buffers.twoSamples.inMode (some #[0, 0]) false).WellFormed .rmse :=
    Buffers.twoSamples_wellFormed
  have addressable : (Buffers.twoSamples.inMode none false).Addressable :=
    Buffers.addressable_inMode false Buffers.twoSamples_addressable nofun
  have carried : ofLanes.binding.CarriesOut (Buffers.twoSamples.inMode none false) :=
    (Binding.carriesOut_iff described own bound Device.host_works (by decide) addressable).2
      (Buffers.wellFormed_inMode training nofun)
  obtain ⟨-, full, gradients⟩ := answer.2.2 carried
  exact ⟨carried, full, gradients 1 (by decide) 0 (by decide)⟩

end BoostZones
