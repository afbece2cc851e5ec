import BoostZones.Proofs.Objective.Samples
import BoostZones.Proofs.Sequence.Loops

/-! Objectives on their way to a kernel. The numbers of a handle that is made from the descriptor
of an objective stand for that objective, whatever the zone.
-/

namespace BoostZones.Objective

/-- A valid objective is the one that its own code and number of scores stand for. -/
theorem ofCode?_code {o : Objective} (valid : o.validate = .ok ())
    : ofCode? o.code o.scoreCount = some o := by
  cases o with
  | rmse => rfl
  | poissonDeviance => rfl
  | logLoss classes =>
      have several := (validate_eq_ok_iff (.logLoss classes)).1 valid classes rfl
      by_cases wide : 2 < classes
      · have single : classes ≠ 1 := by
          intro one
          rw [one] at wide
          exact absurd wide (by decide)
        simp [ofCode?, code, scoreCount, wide, single]
      · have two : classes = 2 := UInt64.le_antisymm (UInt64.not_lt.1 wide) several
        rw [two]
        rfl

/-- A descriptor has the code, the number of scores and the link of its objective. -/
theorem descriptor_eq_ok_iff {o : Objective} {d : Descriptor}
    : o.descriptor = .ok d
      ↔ o.validate = .ok ()
        ∧ d = {
            objective := o.code
            link := o.link.code
            linkParameter := 0
            scoreCount := o.scoreCount
            maximizes := false
            hasConstantHessian := o.hasConstantHessian
            gradientConstant := 1
          } := by
  unfold descriptor
  rw [bind_eq_ok_iff]
  constructor
  · intro described
    rcases described with ⟨⟨⟩, valid, ⟨⟩⟩
    exact ⟨valid, rfl⟩
  · intro described
    obtain ⟨valid, rfl⟩ := described
    exact ⟨(), valid, rfl⟩

/-- The handle of an objective's descriptor stands for that objective, in every zone. -/
theorem ofHandle_toHandle {o : Objective} {d : Descriptor} (described : o.descriptor = .ok d)
    (zone : Zone)
    : ofHandle (d.toHandle zone) = .ok o := by
  obtain ⟨valid, rfl⟩ := descriptor_eq_ok_iff.1 described
  have decoded := ofCode?_code valid
  unfold ofHandle Descriptor.toHandle
  dsimp only
  rw [decoded]
  exact if_pos rfl

end BoostZones.Objective
