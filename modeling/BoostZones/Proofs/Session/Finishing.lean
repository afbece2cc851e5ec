import BoostZones.Proofs.Session.Validation

/-! Metrics are finished alike in every session. A session of the baseline finishes them by its own
binding, and any other by a second binding to the baseline; both are the binding that the registry
gives for the baseline, so what comes out does not depend on the zone.
-/

namespace BoostZones.Session

theorem checkTotalWeight_eq_ok_iff {weight : Float}
    : checkTotalWeight weight = .ok () ↔ 0 < weight ∧ weight.isFinite = true := by
  unfold checkTotalWeight
  split
  · next right => simpa using right
  · next wrong => simpa using wrong

theorem checkTotalWeight_of_not {weight : Float}
    (wrong : ¬ (0 < weight ∧ weight.isFinite = true))
    : checkTotalWeight weight = .error (.invalidTotalWeight weight) := by
  unfold checkTotalWeight
  exact if_neg (by simpa using wrong)

/-- Finishing with a total weight that does not count comes to nothing else. -/
theorem finish_of_not_counts (s : Session) (sum : Float) {weight : Float}
    (wrong : ¬ (0 < weight ∧ weight.isFinite = true))
    : s.finish sum weight = .error (.invalidTotalWeight weight) := by
  unfold finish
  rw [checkTotalWeight_of_not wrong]
  rfl

section Created
variable {r : Registry} {zone : Zone} {o : Objective} {s : Session}
variable (created : create r zone o = .ok s)
include created

/-- What finishes the metrics of a session is the baseline's binding of its descriptor, in whatever
zone the session is.
-/
theorem finishing?_of_create {d : Descriptor} (described : o.descriptor = .ok d)
    : s.finishing? = (bind r Zone.baseline d).toOption := by
  obtain ⟨d', described', bound, -, finisher, -⟩ := create_eq_ok_iff.1 created
  cases described.symm.trans described'
  have finishes : s.binding.supports .finishMetric = zone.isBaseline :=
    (bind_eq_ok_iff_resolved.1 bound).2.2.2.2.1
  unfold finishing?
  rw [finishes, finisher, finisherFor]
  cases baseline : zone.isBaseline with
  | true =>
      cases eq_of_beq baseline
      rw [bound]
      rfl
  | false => rfl

/-- A session can finish metrics exactly when there is a session of the baseline for the same
objective.
-/
theorem canFinish_iff_baseline
    : s.canFinish = true ↔ ∃ t, create r Zone.baseline o = .ok t := by
  obtain ⟨d, described, -⟩ := create_eq_ok_iff.1 created
  rw [← s.isSome_finishing?, finishing?_of_create created described]
  simp only [Option.isSome_iff_exists, toOption_eq_some_iff]
  constructor
  · intro bound
    obtain ⟨b, bound⟩ := bound
    exact ⟨⟨o, b, _, 0⟩, create_eq_ok_iff.2 ⟨d, described, bound, rfl, rfl, rfl⟩⟩
  · intro opened
    obtain ⟨t, opened⟩ := opened
    obtain ⟨d', described', bound, -⟩ := create_eq_ok_iff.1 opened
    cases described.symm.trans described'
    exact ⟨t.binding, bound⟩

/-- Sessions that the same binding finishes metrics for finish them alike. -/
theorem finish_eq_of_baseline {t : Session} (opened : create r Zone.baseline o = .ok t)
    (sum weight : Float)
    : s.finish sum weight = t.finish sum weight := by
  obtain ⟨d, described, -⟩ := create_eq_ok_iff.1 created
  have same : s.finishing? = t.finishing? :=
    (finishing?_of_create created described).trans (finishing?_of_create opened described).symm
  have able : s.finishing?.isSome = true := by
    rw [s.isSome_finishing?]
    exact (canFinish_iff_baseline created).2 ⟨t, opened⟩
  by_cases counts : 0 < weight ∧ weight.isFinite = true
  · have checked := checkTotalWeight_eq_ok_iff.2 counts
    rw [s.finish_of_counts sum checked, t.finish_of_counts sum checked, ← same]
    obtain ⟨b, held⟩ := Option.isSome_iff_exists.1 able
    rw [held]
    rfl
  · rw [s.finish_of_not_counts sum counts, t.finish_of_not_counts sum counts]

/-- Whatever the zone of a session, it can finish metrics exactly when the baseline has a session
for the objective, and then both finish alike. Without the baseline, a total weight that does not
count is still what is reported first.
-/
theorem finish_agrees_with_baseline (sum weight : Float)
    : (s.canFinish = true ↔ ∃ t, create r Zone.baseline o = .ok t)
      ∧ (∀ t, create r Zone.baseline o = .ok t → s.finish sum weight = t.finish sum weight)
      ∧ (s.canFinish = false
        → (¬ (0 < weight ∧ weight.isFinite = true)
            → s.finish sum weight = .error (.invalidTotalWeight weight))
          ∧ (0 < weight ∧ weight.isFinite = true
            → s.finish sum weight = .error (.zone (.capabilityAbsent zone .finishMetric)))) := by
  refine ⟨canFinish_iff_baseline created, ?_, ?_⟩
  · intro t opened
    exact finish_eq_of_baseline created opened sum weight
  · intro unable
    refine ⟨s.finish_of_not_counts sum, ?_⟩
    intro counts
    have nothing : s.finishing? = none := by
      rw [← s.isSome_finishing?] at unable
      simpa using unable
    rw [s.finish_of_counts sum (checkTotalWeight_eq_ok_iff.2 counts), nothing,
      zone_of_create created]
    rfl

end Created

/-- The baseline and the lanes. -/
def twoZones : Registry :=
  (Registry.empty.add Zone.cpu.exports).add Zone.simd.exports

theorem lanes_finish_as_baseline
    : (∃ s t,
        create twoZones .simd .rmse = .ok s
        ∧ create twoZones .cpu .rmse = .ok t
        ∧ s.canFinish = true
        ∧ s.finish 10 4 = t.finish 10 4)
      ∧ ofLanes.finish 10 0 = .error (.invalidTotalWeight 0)
      ∧ ofLanes.finish 10 4 = .error (.zone (.capabilityAbsent .simd .finishMetric)) := by
  have weightless : ¬ ((0 : Float) < 0 ∧ (0 : Float).isFinite = true) := by decide +kernel
  have counts : (0 : Float) < 4 ∧ (4 : Float).isFinite = true := by decide +kernel
  obtain ⟨s, created⟩ : ∃ s, create twoZones .simd .rmse = .ok s := ⟨_, rfl⟩
  obtain ⟨t, opened⟩ : ∃ t, create twoZones .cpu .rmse = .ok t := ⟨_, rfl⟩
  have together := finish_agrees_with_baseline created 10 4
  refine ⟨⟨s, t, created, opened, together.1.2 ⟨t, opened⟩, together.2.1 t opened⟩, ?_, ?_⟩
  · exact ((finish_agrees_with_baseline create_ofLanes 10 0).2.2 rfl).1 weightless
  · exact ((finish_agrees_with_baseline create_ofLanes 10 4).2.2 rfl).2 counts

end BoostZones.Session
