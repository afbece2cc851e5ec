import BoostZones.Proofs.Session.Binding
import BoostZones.Proofs.Trial.Reports

/-! Which zones are reported on. There is one report for each zone that can work, in the order of
the ids. The baseline is run in any case, since the others are compared with it, but whether it can
work is not asked then; so a baseline that is there and cannot work is run and not reported.
-/

namespace BoostZones.Trial

/-- The reports begin with the baseline's, and then there is one for each other zone that can work,
in the order of the ids.
-/
def BeginWithBaseline (r : Registry) (o : Objective) (samples : Nat) (reports : List Report)
    : Prop :=
  ∃ baseline others,
    Makes r o samples Zone.baseline baseline
    ∧ reports = .compare Zone.baseline baseline baseline :: others
    ∧ others.map (·.zone) = r.availableZones.filter (!·.isBaseline)

/-- A zone makes one thing of a trial. -/
theorem Makes.unique {r : Registry} {o : Objective} {samples : Nat} {zone : Zone}
    {outcome other : Outcome} (makes : Makes r o samples zone outcome)
    (again : Makes r o samples zone other)
    : outcome = other := by
  obtain ⟨trial, d, binding, made, described, bound, ran⟩ := makes
  obtain ⟨trial', d', binding', made', described', bound', ran'⟩ := again
  cases made.symm.trans made'
  cases described.symm.trans described'
  cases bound.symm.trans bound'
  cases ran.symm.trans ran'
  rfl

/-- The baseline stands first among the zones that can work, if it is one of them. -/
theorem availableZones_of_baseline {r : Registry}
    (available : r.isAvailable Zone.baseline = true)
    : r.availableZones = Zone.baseline :: r.availableZones.filter (!·.isBaseline) := by
  refine (List.filter_cons_of_pos available).trans ?_
  rw [Registry.availableZones, List.filter_filter]
  rfl

/-- A zone that a trial was run in is registered, whether or not it can work. -/
theorem Makes.isRegistered {calls : List Exports} {o : Objective} {samples : Nat} {zone : Zone}
    {outcome : Outcome} (makes : Makes (Registry.run calls).1 o samples zone outcome)
    : (Registry.run calls).1.isRegistered zone = true := by
  obtain ⟨holds, compatible⟩ := Registry.made_run calls
  obtain ⟨trial, d, binding, -, -, bound, -⟩ := makes
  rw [holds] at bound ⊢
  obtain ⟨-, -, -, update, -, -⟩ := bind_eq_ok_iff_resolved.mp bound
  obtain ⟨e, member, rfl, -⟩ := compatible.resolveUpdate_iff.mp update
  exact Registry.isRegistered_ofExports.mpr (List.mem_map_of_mem member)

/-- After any calls to register, a check that comes to an end reports on the zones that can work,
each once and in the order of the ids, and compares each with the baseline. The baseline is
registered then. The reports begin with its own exactly when it can work; if it cannot, it has been
run and compared with, and there is no report on it.
-/
theorem crossCheck_begins_with_baseline_iff {calls : List Exports} {o : Objective} {samples : Nat}
    {reports : List Report} (checked : crossCheck (Registry.run calls).1 o samples = .ok reports)
    : (Registry.run calls).1.isRegistered Zone.baseline = true
      ∧ reports.map (·.zone) = (Registry.run calls).1.availableZones
      ∧ (∃ baseline,
          Makes (Registry.run calls).1 o samples Zone.baseline baseline
          ∧ ∀ report ∈ reports, ∃ outcome,
              Makes (Registry.run calls).1 o samples report.zone outcome
              ∧ report = .compare report.zone outcome baseline)
      ∧ (BeginWithBaseline (Registry.run calls).1 o samples reports
          ↔ (Registry.run calls).1.isAvailable Zone.baseline = true) := by
  obtain ⟨baseline, own, zones, compared⟩ := exists_makes_of_crossCheck checked
  refine ⟨own.isRegistered, zones, ⟨baseline, own, compared⟩, ?_⟩
  constructor
  · intro begins
    obtain ⟨_, _, -, rfl, -⟩ := begins
    have first : Zone.baseline ∈ (Registry.run calls).1.availableZones := by
      rw [← zones]
      exact List.mem_cons_self
    exact (List.mem_filter.mp first).2
  · intro available
    rw [availableZones_of_baseline available] at zones
    obtain ⟨first, others, rfl, zone, rest⟩ := List.map_eq_cons_iff.mp zones
    obtain ⟨outcome, makes, same⟩ := compared first List.mem_cons_self
    rw [zone] at makes same
    rw [makes.unique own] at same
    exact ⟨baseline, others, own, by rw [same], rest⟩

/-- A baseline that cannot work, beside lanes that can. -/
def withheldBaseline : List Exports :=
  [{ filling .cpu 0 with available := false }, filling .simd 0]

theorem reports_withheldBaseline {t : Trial} {d : Descriptor}
    (described : t.objective.descriptor = .ok d) (sized : t.Sized) (held : t.overflows = false)
    : t.reports (Registry.run withheldBaseline).1 d
      = .ok [.compare .simd (t.filled 0) (t.filled 0)] := by
  have available : (Registry.run withheldBaseline).1.availableZones = [.simd] := rfl
  have only := report_of_filling described sized held (t.filled 0)
    (r := (Registry.run withheldBaseline).1) (z := 0) rfl
  have finish : (Registry.run withheldBaseline).1.resolveFinish .cpu = .ok fun _ mean => mean := rfl
  rw [reports_of_filling described sized held rfl finish, available, List.mapM_cons, List.mapM_nil, only]
  rfl

/-- The baseline is registered and run, and the only report is on the lanes. -/
theorem withheldBaseline_is_not_reported
    : ∃ report,
        crossCheck (Registry.run withheldBaseline).1 .poissonDeviance 1 = .ok [report]
        ∧ report.zone = .simd
        ∧ (Registry.run withheldBaseline).1.isRegistered Zone.baseline = true
        ∧ ¬ BeginWithBaseline (Registry.run withheldBaseline).1 .poissonDeviance 1 [report] := by
  obtain ⟨t, made, held⟩ : ∃ t, make .poissonDeviance 1 = .ok t ∧ t.overflows = false :=
    ⟨_, rfl, by decide⟩
  obtain ⟨d, described⟩ : ∃ d, Objective.poissonDeviance.descriptor = .ok d := ⟨_, rfl⟩
  obtain ⟨own, -, sized⟩ := sized_of_make made
  have checked
      : crossCheck (Registry.run withheldBaseline).1 .poissonDeviance 1
        = .ok [.compare .simd (t.filled 0) (t.filled 0)] := by
    refine bind_eq_ok_iff.mpr ⟨t, made, ?_⟩
    refine bind_eq_ok_iff.mpr ⟨d, mapError_eq_ok_iff.mpr described, ?_⟩
    exact reports_withheldBaseline (own ▸ described) sized held
  obtain ⟨registered, -, -, begins⟩ := crossCheck_begins_with_baseline_iff checked
  have unavailable : (Registry.run withheldBaseline).1.isAvailable Zone.baseline = false := rfl
  refine ⟨_, checked, rfl, registered, ?_⟩
  rw [begins, unavailable]
  exact Bool.false_ne_true

end BoostZones.Trial
