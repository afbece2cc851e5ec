import BoostZones.Proofs.Kernel.Lanes
import BoostZones.Proofs.Kernel.Scalar
import BoostZones.Proofs.Kernel.Staged
import BoostZones.Registry.Linked

/-! How a call of a zone's entry ends. A call that is not accepted changes nothing, and one that
is accepted is carried out; only the staged zone can break off, before it has written anything,
when the length of a block does not fit a word.
-/

namespace BoostZones

namespace Kernel

/-- The three checks of a call let it pass. -/
def Accepts (h : Handle) (t : Transfer) : Prop :=
  ∃ objective view,
    Objective.ofHandle h = .ok objective
    ∧ t.view h = .ok view
    ∧ objective.checkTargets view.targets.toList = .ok ()

theorem accepts_iff (h : Handle) (t : Transfer)
    : Accepts h t ↔ ∃ job, Job.accept h t = .ok job := by
  constructor
  · rintro ⟨objective, view, known, viewed, valid⟩
    exact ⟨⟨objective, h.gradientConstant, view⟩,
      (Job.accept_eq_ok_iff h t _).2 ⟨known, viewed, valid, rfl⟩⟩
  · rintro ⟨job, accepted⟩
    obtain ⟨known, viewed, valid, -⟩ := (Job.accept_eq_ok_iff h t job).1 accepted
    exact ⟨job.objective, job.view, known, viewed, valid⟩

theorem acceptable_of_accepts {h : Handle} {t : Transfer} (accepts : Accepts h t)
    : t.Acceptable h := by
  obtain ⟨_, view, _, viewed, _⟩ := accepts
  exact (Transfer.objection?_eq_none_iff h t).1 ((Transfer.view_eq_ok_iff h t view).1 viewed).1

/-- Whichever check refuses a call, it is told as a bad parameter. -/
theorem status_of_accept {h : Handle} {t : Transfer} {reason : ZoneError}
    (refused : Job.accept h t = .error reason)
    : reason.status = .illegalParameter := by
  unfold Job.accept at refused
  simp only [bind_eq_error_iff, mapError_eq_error_iff, mapError_eq_ok_iff] at refused
  rcases refused with ⟨unknown, -, rfl⟩ | ⟨objective, -, wrong | ⟨view, -, unfit⟩⟩
  · exact unknown.status_toZoneError
  · unfold Transfer.view at wrong
    split at wrong <;> cases wrong
    rfl
  · rcases unfit with ⟨outside, -, rfl⟩ | ⟨_, -, ⟨⟩⟩
    exact outside.status_toZoneError

end Kernel

/-- Storing what a view holds changes nothing. -/
theorem Transfer.store_view {h : Handle} {t : Transfer} {v : View} (viewed : t.view h = .ok v)
    : t.store v.scores v.gradients = t := by
  have kept (buffer : Option (Array Float)) (length : Nat)
      : buffer.map (overwrite · 0 (cut buffer length).toList) = buffer := by
    cases buffer with
    | none => rfl
    | some b => rw [Option.map_some, cut, Option.getD_some, overwrite_extract]
  obtain ⟨-, rfl⟩ := (view_eq_ok_iff h t v).1 viewed
  obtain training | validation := Bool.eq_false_or_eq_true
    (decide (0 < t.sampleCount.toNat) && !t.isValidation)
  · simp only [store, toView, training, if_true, kept]
  · simp only [store, toView, validation, Bool.false_eq_true, if_false, kept]

theorem Transfer.gradients_of_validation {h : Handle} {t : Transfer} {v : View}
    (viewed : t.view h = .ok v) (validation : t.isValidation = true)
    : v.gradients = none := by
  obtain ⟨-, rfl⟩ := (view_eq_ok_iff h t v).1 viewed
  simp [toView, validation]

namespace Zone

def traversal : Zone → Kernel.Traversal
  | .cpu => Kernel.Scalar.traverse
  | .simd => Kernel.Lanes.traverse
  | .offload => Kernel.Staged.traverse

/-- What keeps the zone from a job that is accepted. -/
def objection? (zone : Zone) (device : Device) : Kernel.Job → Option ZoneError :=
  match zone with
  | .cpu | .simd => fun _ => none
  | .offload => device.objection?

theorem kernelOn_eq (zone : Zone) (device : Device)
    : zone.kernelOn device = Kernel.ofTraversal zone.traversal (zone.objection? device) := by
  cases zone <;> rfl

/-- The metric that the zone comes to: the same terms, added up in the order of the zone. -/
def metricOf (zone : Zone) (job : Kernel.Job) : Float :=
  match zone with
  | .cpu => Kernel.Scalar.metricAfter job job.view.sampleCount
  | .simd => (Kernel.Lanes.sumsAfter job job.view.sampleCount).total
  | .offload => Kernel.Staged.metricOf job

section Ready
variable (zone : Zone) {job : Kernel.Job} (ready : job.Ready)
include ready

theorem traversal_eq (fits : Kernel.Staged.Fits job)
    : zone.traversal job = .ok (job.outcome (zone.metricOf job)) := by
  cases zone with
  | cpu => exact Kernel.Scalar.traverse_eq ready
  | simd => exact Kernel.Lanes.traverse_eq ready
  | offload => exact Kernel.Staged.traverse_eq ready fits

/-- Whatever the length of a block, a traversal that breaks off has written nothing, and one
that ends has no gradients in validation.
-/
theorem traversal_cases
    : zone.traversal job = .error job.start
      ∨ ∃ p,
          zone.traversal job = .ok p ∧ p.gradients.isSome = job.view.gradients.isSome := by
  have same (metric : Float)
      : (job.outcome metric).gradients.isSome = job.view.gradients.isSome := Option.isSome_map
  cases zone with
  | cpu => exact Or.inr ⟨_, Kernel.Scalar.traverse_eq ready, same _⟩
  | simd => exact Or.inr ⟨_, Kernel.Lanes.traverse_eq ready, same _⟩
  | offload =>
      cases ended : Kernel.Staged.traverse job with
      | error p =>
          rw [Kernel.Staged.start_of_error ended] at ended
          exact Or.inl ended
      | ok p => exact Or.inr ⟨p, ended, Kernel.Staged.gradients_of_ok ended⟩

end Ready

section Calls
variable (zone : Zone) (device : Device)

/-- A call that is not accepted is a bad parameter, and the record stays as it is. -/
theorem updateOn_refused {handle : Option Handle} {record : Option Transfer}
    (refused : ¬ ∃ h ∈ handle, ∃ t ∈ record, Kernel.Accepts h t)
    : zone.updateOn device handle record = (-3, record) := by
  rcases handle with - | h
  · rfl
  rcases record with - | t
  · rfl
  cases judged : Kernel.Job.accept h t with
  | ok job =>
      exact absurd ⟨h, rfl, t, rfl, (Kernel.accepts_iff h t).2 ⟨job, judged⟩⟩ refused
  | error reason =>
      have illegal := Kernel.status_of_accept judged
      simp only [updateOn, Kernel.guardUpdate, kernelOn_eq, Kernel.ofTraversal, judged,
        Kernel.Ending.code, illegal]
      rfl

variable {h : Handle} {t : Transfer} {job : Kernel.Job}
variable (accepted : Kernel.Job.accept h t = .ok job) {p : Kernel.Progress}
include accepted

theorem updateOn_unserved {reason : ZoneError} (unserved : zone.objection? device job = some reason)
    : zone.updateOn device (some h) (some t) = (reason.status.code, some t) := by
  simp only [updateOn, Kernel.guardUpdate, kernelOn_eq, Kernel.ofTraversal, accepted, unserved]
  rfl

theorem updateOn_finished (served : zone.objection? device job = none)
    (ended : zone.traversal job = .ok p)
    : zone.updateOn device (some h) (some t)
      = (0, some { t.store p.scores p.gradients with metric := p.metric }) := by
  simp only [updateOn, Kernel.guardUpdate, kernelOn_eq, Kernel.ofTraversal, accepted, served,
    ended]
  rfl

/-- A call that breaks off before anything is written leaves the record as it was. -/
theorem updateOn_broken (served : zone.objection? device job = none)
    (ended : zone.traversal job = .error job.start)
    : zone.updateOn device (some h) (some t) = (-2, some t) := by
  obtain ⟨-, viewed, -⟩ := (Kernel.Job.accept_eq_ok_iff h t job).1 accepted
  have kept := Transfer.store_view viewed
  simp only [updateOn, Kernel.guardUpdate, kernelOn_eq, Kernel.ofTraversal, accepted, served,
    ended, Kernel.Job.start, kept]
  rfl

end Calls
end Zone
end BoostZones
