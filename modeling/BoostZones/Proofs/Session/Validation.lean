import BoostZones.Proofs.Crossing
import BoostZones.Proofs.Session.Opening

/-! Validation calls that fail. The total weight is checked before the scores are touched, but
metrics are finished after the update, so a call whose metric cannot be finished has changed the
scores. Nothing else leaves changed scores behind, except an entry from outside that writes
although it refuses.
-/

namespace BoostZones.Session

/-- The binding that finishes metrics: the session's own if it can, else the baseline's. -/
def finishing? (s : Session) : Option Binding :=
  if s.binding.supports .finishMetric then some s.binding else s.finisher

/-- The metric of a mean cannot be finished: nothing is bound that could, or what is bound makes
no number of a number.
-/
def CannotFinish (s : Session) (mean : Float) : Prop :=
  s.canFinish = false
  ∨ ∃ b ∈ s.finishing?, ∃ entry ∈ b.finish,
      (entry (some b.handle) mean).isNaN = true ∧ mean.isNaN = false

theorem isSome_finishing? (s : Session) : s.finishing?.isSome = s.canFinish := by
  unfold finishing? canFinish
  split
  · next own => rw [own, Bool.true_or, Option.isSome_some]
  · next foreign => rw [Bool.eq_false_iff.2 foreign, Bool.false_or]

/-- A binding fails to finish a mean exactly when its entry makes no number of a number. -/
theorem finishMetric_eq_error_iff {b : Binding} {entry : FinishEntry}
    (held : b.finish = some entry) (mean : Float)
    : (∃ reason, b.finishMetric mean = .error reason)
      ↔ (entry (some b.handle) mean).isNaN = true ∧ mean.isNaN = false := by
  unfold Binding.finishMetric
  rw [held]
  dsimp only
  split
  · next lost =>
    rw [Bool.and_eq_true, Bool.not_eq_true'] at lost
    exact iff_of_true ⟨_, rfl⟩ lost
  · next kept =>
    rw [Bool.and_eq_true, Bool.not_eq_true'] at kept
    exact iff_of_false (by rintro ⟨_, ⟨⟩⟩) kept

/-- With a total weight that counts, the mean goes to the binding that finishes metrics. -/
theorem finish_of_counts (s : Session) (sum : Float) {weight : Float}
    (counts : checkTotalWeight weight = .ok ())
    : s.finish sum weight
      = s.finishing?.elim (.error (.zone (.capabilityAbsent s.zone .finishMetric)))
          fun b => (b.finishMetric (sum / weight)).mapError .zone := by
  unfold finish finishing?
  rw [counts]
  split
  · rfl
  · cases s.finisher <;> rfl

section Created
variable {r : Registry} {zone : Zone} {o : Objective} {s : Session}
variable (created : create r zone o = .ok s)
include created

/-- Whatever binding finishes the metrics of a session, it has the entry for that. -/
theorem exists_finish {b : Binding} (held : s.finishing? = some b)
    : ∃ entry, b.finish = some entry := by
  obtain ⟨d, -, -, -, finisher, -⟩ := create_eq_ok_iff.1 created
  apply Option.isSome_iff_exists.1
  unfold finishing? at held
  split at held
  · next own =>
    cases held
    exact own
  · rw [finisher] at held
    exact (bind_eq_ok_iff_resolved.1 (bound_of_finisherFor held)).2.2.2.2.1

/-- With a total weight that counts, finishing fails exactly when the mean cannot be finished. -/
theorem finish_eq_error_iff (sum : Float) {weight : Float}
    (counts : checkTotalWeight weight = .ok ())
    : (∃ reason, s.finish sum weight = .error reason) ↔ s.CannotFinish (sum / weight) := by
  unfold CannotFinish
  rw [s.finish_of_counts sum counts, ← s.isSome_finishing?]
  cases held : s.finishing? with
  | none => exact iff_of_true ⟨_, rfl⟩ (Or.inl rfl)
  | some b =>
      obtain ⟨entry, has⟩ := exists_finish created held
      have failing := finishMetric_eq_error_iff has (sum / weight)
      rw [Option.elim_some]
      constructor
      · rintro ⟨reason, failed⟩
        refine Or.inr ⟨b, rfl, entry, has, failing.1 ?_⟩
        cases ended : b.finishMetric (sum / weight) with
        | error reason => exact ⟨reason, rfl⟩
        | ok value =>
            rw [ended] at failed
            cases failed
      · rintro (absent | ⟨_, ⟨⟩, other, held', lost⟩)
        · cases absent
        · cases has.symm.trans held'
          obtain ⟨reason, failed⟩ := failing.2 lost
          exact ⟨.zone reason, by rw [failed]; rfl⟩

end Created

/-- Which bad calls are caught in time: the mode and the total weight are. -/
theorem validate_eq_of_rejected (s : Session) {b : Buffers}
    (rejected : ¬ (b.isValidation = true ∧ checkTotalWeight (totalWeight b) = .ok ()))
    : (s.validate b).1 = b := by
  unfold validate
  split
  · rfl
  · next validation =>
    dsimp only
    split
    · rfl
    · next counts => exact absurd ⟨by simpa using validation, counts⟩ rejected

theorem validate_eq_of_counts (s : Session) {b : Buffers} (validation : b.isValidation = true)
    (counts : checkTotalWeight (totalWeight b) = .ok ())
    : s.validate b
      = ((s.binding.applyUpdate b).1,
          match (s.binding.applyUpdate b).2 with
          | .ok sum => s.finish sum (totalWeight b)
          | .error reason => .error (.zone reason)) := by
  unfold validate
  simp only [validation, Bool.not_true, Bool.false_eq_true, if_false, counts]
  cases answer : (s.binding.applyUpdate b).2 <;> rfl

/-- A failed validation call leaves other scores behind exactly when the mode and the total weight
are right, the zone changes the scores, and then either the zone's answer is an error or the
metric cannot be finished. A zone's own entry that answers with an error changes nothing, so
there it is always the finishing.
-/
theorem validate_fails_with_scores_changed_iff {r : Registry} {zone : Zone} {o : Objective}
    {s : Session} (created : create r zone o = .ok s) (b : Buffers)
    : ((∃ reason, (s.validate b).2 = .error reason) ∧ (s.validate b).1.scores ≠ b.scores
        ↔ b.isValidation = true
          ∧ checkTotalWeight (totalWeight b) = .ok ()
          ∧ (s.binding.applyUpdate b).1.scores ≠ b.scores
          ∧ ((∃ reason, (s.binding.applyUpdate b).2 = .error reason)
            ∨ ∃ sum,
                (s.binding.applyUpdate b).2 = .ok sum ∧ s.CannotFinish (sum / totalWeight b)))
      ∧ ∀ own device,
          s.binding.update = Zone.updateOn own device
          → (∃ reason, (s.binding.applyUpdate b).2 = .error reason)
          → (s.binding.applyUpdate b).1 = b := by
  refine ⟨?_, fun own device same ⟨reason, failed⟩ => Binding.applyUpdate_of_error same failed⟩
  by_cases accepted : b.isValidation = true ∧ checkTotalWeight (totalWeight b) = .ok ()
  · obtain ⟨validation, counts⟩ := accepted
    rw [s.validate_eq_of_counts validation counts]
    dsimp only
    cases answer : (s.binding.applyUpdate b).2 with
    | error reason =>
        constructor
        · rintro ⟨-, changed⟩
          exact ⟨validation, counts, changed, Or.inl ⟨reason, rfl⟩⟩
        · rintro ⟨-, -, changed, -⟩
          exact ⟨⟨_, rfl⟩, changed⟩
    | ok sum =>
        have finishing := finish_eq_error_iff created sum counts
        constructor
        · rintro ⟨failed, changed⟩
          exact ⟨validation, counts, changed, Or.inr ⟨sum, rfl, finishing.1 failed⟩⟩
        · rintro ⟨-, -, changed, ⟨_, ⟨⟩⟩ | ⟨_, ⟨⟩, cannot⟩⟩
          exact ⟨finishing.2 cannot, changed⟩
  · refine iff_of_false ?_ fun right => accepted ⟨right.1, right.2.1⟩
    rintro ⟨-, changed⟩
    exact changed (by rw [s.validate_eq_of_rejected accepted])

/-- Regression by squares in a registry of the lanes alone, where no baseline finishes metrics. -/
def ofLanes : Session where
  objective := .rmse
  binding := {
    zone := .simd
    handle := { Handle.squares with zone := Zone.simd.id }
    update := Zone.simd.updateOn .host
    finish := none
  }
  finisher := none
  rounds := 0

theorem create_ofLanes
    : create (Registry.empty.add Zone.simd.exports) .simd .rmse = .ok ofLanes := rfl

/-- A validation call for one sample. -/
def oneSample : Buffers where
  update := #[1]
  packed := none
  targets := #[0]
  weights := none
  scores := #[5]
  gradients := none
  hessianNeeded := false

theorem ofLanes_fails_with_scores_changed
    : (∃ reason, (ofLanes.validate oneSample).2 = .error reason)
      ∧ (ofLanes.validate oneSample).1.scores ≠ oneSample.scores := by
  have counts : checkTotalWeight (totalWeight oneSample) = .ok () := by
    rw [checkTotalWeight, if_pos (by decide +kernel)]
  have changed : (ofLanes.binding.applyUpdate oneSample).1.scores ≠ oneSample.scores := by decide
  apply (validate_fails_with_scores_changed_iff create_ofLanes oneSample).1.2
  exact ⟨rfl, counts, changed, Or.inr ⟨_, rfl, Or.inl rfl⟩⟩

end BoostZones.Session
