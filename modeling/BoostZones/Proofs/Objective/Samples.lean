import BoostZones.Handle
import BoostZones.Objective.Sample

/-!
Samples that an objective can judge. A sample with as many scores as the objective has, and with
a target in the objective's domain, has a metric and has its gradients: the target of a
classification names one of the scores.
-/

namespace BoostZones.Objective

/-- An objective is recovered with the number of scores that the handle tells. -/
theorem scoreCount_of_ofHandle {h : Handle} {o : Objective} (known : ofHandle h = .ok o)
    : o.scoreCount = h.scoreCount := by
  have decoded : ofCode? h.objective h.scoreCount = some o := by
    unfold ofHandle at known
    split at known
    · cases known
    · next found =>
      split at known
      · cases known
        exact found
      · cases known
  unfold ofCode? at decoded
  split at decoded
  · next single => cases decoded; exact single.2.symm
  split at decoded
  · next single => cases decoded; exact single.2.symm
  split at decoded
  · next many => cases decoded; exact if_pos many.2
  split at decoded
  · next single => cases decoded; exact single.2.symm
  · cases decoded

/-- Log loss has a score for each class from three classes on. -/
theorem scoreCount_logLoss (classes : UInt64)
    : (logLoss classes).scoreCount = if 2 < classes then classes else 1 := rfl

/-- Every sample has a score, whatever the objective. -/
theorem scoreCount_ne_zero (o : Objective) : o.scoreCount ≠ 0 := by
  cases o with
  | logLoss classes =>
      rw [scoreCount_logLoss]
      split
      · next wide =>
        rintro rfl
        exact absurd wide (by decide)
      · decide
  | rmse => decide
  | poissonDeviance => decide

/-- A sample has one score unless the objective is a classification into several classes. -/
theorem scoreCount_eq_one {o : Objective} (single : o.isMulticlass = false)
    : o.scoreCount.toNat = 1 := by
  have few : ¬ 1 < o.scoreCount := by simpa [isMulticlass] using single
  cases o with
  | logLoss classes =>
      by_cases wide : 2 < classes
      · rw [scoreCount_logLoss, if_pos wide] at few
        exact absurd (UInt64.lt_trans (by decide) wide) few
      · rw [scoreCount_logLoss, if_neg wide]
        rfl
  | rmse => rfl
  | poissonDeviance => rfl

/-- A target in the domain of a classification names one of the scores. -/
theorem classIndex_lt {o : Objective} (many : o.isMulticlass = true) {target : Float}
    (domain : o.targetFault? target = none)
    : classIndex target < o.scoreCount.toNat := by
  have several : 1 < o.scoreCount := by simpa [isMulticlass] using many
  cases o with
  | logLoss classes =>
      by_cases wide : 2 < classes
      · have inside : isClass classes target = true := by
          unfold targetFault? at domain
          split at domain
          · cases domain
          · simpa using domain
        simp only [isClass, Bool.and_eq_true, decide_eq_true_eq] at inside
        rw [scoreCount_logLoss, if_pos wide]
        exact UInt64.lt_iff_toNat_lt.1 inside.2
      · rw [scoreCount_logLoss, if_neg wide] at several
        exact absurd several (by decide)
  | rmse => exact absurd several (by decide)
  | poissonDeviance => exact absurd several (by decide)

section Sample
variable {o : Objective} {scores : List Float} {target : Float}

theorem exists_sampleMetric (full : scores.length = o.scoreCount.toNat)
    (domain : o.targetFault? target = none)
    : ∃ metric, o.sampleMetric? scores target = some metric := by
  unfold sampleMetric?
  split
  · next many =>
    have held : classIndex target < scores.length := by
      rw [full]
      exact classIndex_lt many domain
    exact ⟨_, by rw [classMetric?, List.getElem?_eq_getElem held]; rfl⟩
  · next single =>
    rw [scoreCount_eq_one (by simpa using single)] at full
    obtain ⟨score, rfl⟩ := List.length_eq_one_iff.1 full
    exact ⟨_, rfl⟩

/-- A sample with all its scores has gradients, one for each score, and as many hessians when
they are wanted.
-/
theorem exists_gradientTerms (full : scores.length = o.scoreCount.toNat)
    (domain : o.targetFault? target = none) (hessian : Bool)
    : ∃ terms,
        o.gradientTerms? scores target hessian = some terms
        ∧ terms.length = scores.length * if hessian then 2 else 1 := by
  unfold gradientTerms?
  split
  · next many =>
    have held : classIndex target < scores.length := by
      rw [full]
      exact classIndex_lt many domain
    exact ⟨_, if_pos held, length_classTerms ..⟩
  · next single =>
    rw [scoreCount_eq_one (by simpa using single)] at full
    obtain ⟨score, rfl⟩ := List.length_eq_one_iff.1 full
    exact ⟨_, rfl, by cases hessian <;> rfl⟩

theorem sampleMetric?_single (single : o.isMulticlass = false) (score target : Float)
    : o.sampleMetric? [score] target = some (o.metric score target) := by
  simp [sampleMetric?, single]

end Sample
end BoostZones.Objective
