import BoostZones.Proofs.Buffers.Rounds
import BoostZones.Proofs.Trial.Differences
import BoostZones.Proofs.Trial.Making

/-! What the reports of the trial tell. A report that is consistent tells that the zone has come
to the numbers of the baseline at every place where both are numbers; where one of them is no
number it tells nothing, since such a place is passed over.
-/

namespace BoostZones

namespace Report

open Double

/-- The outcomes are alike at every place of the scores and of the gradients. -/
structure AlikeOutcomes (outcome baseline : Outcome) : Prop where
  scores : AlikeAt outcome.scores baseline.scores
  validationScores : AlikeAt outcome.validationScores baseline.validationScores
  gradients : AlikeAt outcome.gradients baseline.gradients

theorem isConsistent_compare_iff (zone : Zone) (outcome baseline : Outcome)
    : (compare zone outcome baseline).isConsistent = true
      ↔ AlikeOutcomes outcome baseline
        ∧ (compare zone outcome baseline).metricDifference ≤ tolerance := by
  obtain ⟨scores, scoresApart⟩ := greatestDifference_spec outcome.scores baseline.scores
  obtain ⟨validated, validatedApart⟩ :=
    greatestDifference_spec outcome.validationScores baseline.validationScores
  obtain ⟨gradients, gradientsApart⟩ :=
    greatestDifference_spec outcome.gradients baseline.gradients
  obtain ⟨both, bothApart⟩ := zero_lt_larger_iff scores (Or.inr validated)
  have scoreDifference
      : ((compare zone outcome baseline).scoreDifference == 0) = true
        ↔ AlikeAt outcome.scores baseline.scores
          ∧ AlikeAt outcome.validationScores baseline.validationScores := by
    refine (beq_zero_of_amount both).trans ?_
    rw [bothApart, scoresApart, validatedApart, not_or, not_not, not_not]
  have gradientDifference
      : ((compare zone outcome baseline).gradientDifference == 0) = true
        ↔ AlikeAt outcome.gradients baseline.gradients :=
    (beq_zero_of_amount gradients).trans (by rw [gradientsApart, not_not])
  rw [isConsistent, Bool.and_eq_true, Bool.and_eq_true, scoreDifference, gradientDifference,
    decide_eq_true_iff]
  constructor
  · rintro ⟨⟨⟨scores, validationScores⟩, gradients⟩, metric⟩
    exact ⟨⟨scores, validationScores, gradients⟩, metric⟩
  · rintro ⟨⟨scores, validationScores, gradients⟩, metric⟩
    exact ⟨⟨⟨scores, validationScores⟩, gradients⟩, metric⟩

end Report

namespace Trial

/-- What the zone makes of the trial of an objective. -/
def Makes (r : Registry) (o : Objective) (samples : Nat) (zone : Zone) (outcome : Outcome)
    : Prop :=
  ∃ trial d binding,
    make o samples = .ok trial
    ∧ o.descriptor = .ok d
    ∧ bind r zone d = .ok binding
    ∧ trial.attempt binding = .ok outcome

section Checked
variable {r : Registry} {o : Objective} {samples : Nat} {reports : List Report}
variable (checked : crossCheck r o samples = .ok reports)
include checked

/-- The reports are those of the zones that can work, each compared with the same baseline. -/
theorem exists_makes_of_crossCheck
    : ∃ baseline,
        Makes r o samples Zone.baseline baseline
        ∧ reports.map (·.zone) = r.availableZones
        ∧ ∀ report ∈ reports, ∃ outcome,
            Makes r o samples report.zone outcome
            ∧ report = .compare report.zone outcome baseline := by
  obtain ⟨trial, made, checked⟩ := bind_eq_ok_iff.mp checked
  obtain ⟨d, described, checked⟩ := bind_eq_ok_iff.mp checked
  rw [mapError_eq_ok_iff] at described
  obtain ⟨binding, bound, checked⟩ := bind_eq_ok_iff.mp checked
  obtain ⟨baseline, ran, traversed⟩ := bind_eq_ok_iff.mp checked
  rw [mapError_eq_ok_iff] at bound
  have own : Makes r o samples Zone.baseline baseline :=
    ⟨trial, d, binding, made, described, bound, ran⟩
  have each (zone : Zone) (report : Report)
      (reported : trial.report r d baseline zone = .ok report)
      : ∃ outcome, Makes r o samples zone outcome ∧ report = .compare zone outcome baseline := by
    unfold Trial.report at reported
    split at reported
    · next first =>
      obtain rfl : zone = Zone.baseline := eq_of_beq first
      cases reported
      exact ⟨baseline, own, rfl⟩
    · obtain ⟨binding, bound, reported⟩ := bind_eq_ok_iff.mp reported
      obtain ⟨outcome, ran, reported⟩ := bind_eq_ok_iff.mp reported
      cases reported
      rw [mapError_eq_ok_iff] at bound
      exact ⟨outcome, ⟨trial, d, binding, made, described, bound, ran⟩, rfl⟩
  refine ⟨baseline, own, map_eq_of_mapM ?_ traversed, ?_⟩
  · intro zone report reported
    obtain ⟨outcome, -, rfl⟩ := each zone report reported
    rfl
  · intro report member
    obtain ⟨zone, -, reported⟩ := exists_of_mem_mapM traversed member
    obtain ⟨outcome, makes, rfl⟩ := each zone report reported
    exact ⟨outcome, makes, rfl⟩

/-- A zone is reported as consistent exactly when its outcome and the baseline's are alike, and
its metric is within the tolerance.
-/
theorem crossCheck_consistent_iff
    : ∃ baseline,
        Makes r o samples Zone.baseline baseline
        ∧ ∀ report ∈ reports, ∃ outcome,
            Makes r o samples report.zone outcome
            ∧ report = .compare report.zone outcome baseline
            ∧ (report.isConsistent = true
                ↔ Report.AlikeOutcomes outcome baseline
                  ∧ report.metricDifference ≤ Report.tolerance) := by
  obtain ⟨baseline, own, -, compared⟩ := exists_makes_of_crossCheck checked
  refine ⟨baseline, own, fun report member => ?_⟩
  obtain ⟨outcome, makes, same⟩ := compared report member
  have told := Report.isConsistent_compare_iff report.zone outcome baseline
  rw [← same] at told
  exact ⟨outcome, makes, same, told⟩

end Checked

-------------------------------------------------------------------------------
-- The buffers of a trial
-------------------------------------------------------------------------------

/-- What fits no word fits no memory, so nothing is cut from the lengths of a trial's buffers. -/
theorem gradients_lt_word {t : Trial} (held : t.overflows = false)
    : t.samples * t.objective.scoreCount.toNat * 2 < Text.wordLimit := by
  have short : t.samples * t.objective.scoreCount.toNat * 2 < entryLimit := by
    simpa [overflows] using held
  exact Nat.lt_trans short (by decide)

section Sized
variable {t : Trial} (sized : t.Sized)
include sized

theorem fit_training : t.training.Fit t.objective.scoreCount.toNat where
  update := by
    have positive : 0 < t.objective.scoreCount.toNat :=
      Nat.pos_of_ne_zero fun zero => t.objective.scoreCount_ne_zero (UInt64.toNat_inj.1 zero)
    refine ⟨?_, ?_⟩
    · rw [Array.isEmpty_eq_false_iff, ← Array.size_pos_iff, training, sized.update]
      exact Nat.mul_pos (by decide) positive
    · rw [training, sized.update, Nat.mul_mod_left]
  scores := by rw [training, sized.scores, sized.targets]
  weights := nofun
  gradients := by
    rintro g ⟨⟩
    simp [training, sized.targets, View.strideOf, Nat.mul_assoc]
  packing := by
    rintro p ⟨⟩
    have width : perWord ≠ 0 ∧ perWord ≤ maxPerWord := by decide
    exact width
  words := by
    rintro p ⟨⟩
    exact sized.packed.trans (by rw [training, sized.targets])

theorem fit_validation : t.validation.Fit t.objective.scoreCount.toNat where
  update := (fit_training sized).update
  scores := (fit_training sized).scores
  weights := by
    rintro w ⟨⟩
    exact sized.weights.trans sized.targets.symm
  gradients := nofun
  packing := (fit_training sized).packing
  words := (fit_training sized).words

variable (held : t.overflows = false)
include held

theorem measured_training : t.training.Measured t.objective.scoreCount.toNat := by
  have short := gradients_lt_word held
  refine (fit_training sized).measured ?_ ?_
  · rw [training, sized.scores]
    omega
  · rintro g ⟨⟩
    rwa [Array.size_replicate]

theorem measured_validation : t.validation.Measured t.objective.scoreCount.toNat := by
  have short := gradients_lt_word held
  refine (fit_validation sized).measured ?_ nofun
  rw [validation, sized.scores]
  omega

end Sized

-------------------------------------------------------------------------------
-- Zones that fill their buffers
-------------------------------------------------------------------------------

/-- The entry that writes one number to all scores and gradients, with a metric of one. -/
def fillingEntry (x : Float) : UpdateEntry := fun _ record =>
  (0, record.map fun t =>
    { t with
      scores := t.scores.map fun scores => Array.replicate scores.size x
      gradients := t.gradients.map fun gradients => Array.replicate gradients.size x
      metric := 1 })

def filling (zone : Zone) (x : Float) : Exports where
  zone := zone
  symbols := zone.required.map fun op => ⟨zone.symbolName op, entry op⟩
  available := true
where
  entry : Operation → Entry
    | .applyUpdate => .update (fillingEntry x)
    | .finishMetric => .finish fun _ mean => mean

/-- The outcome of a trial that is filled with one number. -/
def filled (t : Trial) (x : Float) : Outcome where
  scores := Array.replicate t.scores.size x
  gradients := Array.replicate (t.samples * t.objective.scoreCount.toNat * 2) x
  validationScores := Array.replicate t.scores.size x
  metricSum := 1

section Run
variable {t : Trial} (sized : t.Sized) (held : t.overflows = false) {binding : Binding} {x : Float}
variable (entry : binding.update = fillingEntry x)
variable (count : binding.handle.scoreCount = t.objective.scoreCount)
include sized held entry count

theorem run_filling : t.run binding = .ok (t.filled x) := by
  have training := Buffers.objection?_eq_none_iff.2 (measured_training sized held)
  have validation := Buffers.objection?_eq_none_iff.2 (measured_validation sized held)
  have ok : ZoneError.check 0 binding.zone = .ok () := rfl
  simp only [run, Binding.applyUpdate, count, training, validation, Binding.call, entry,
    fillingEntry, ok, Option.map_some]
  simp only [Buffers.readBack, Buffers.toTransfer, Trial.training, Trial.validation, filled,
    Option.map_some, Option.bind_some, Option.getD_some, Array.size_replicate]
  rfl

theorem attempt_filling : t.attempt binding = .ok (t.filled x) := by
  rw [attempt, held]
  exact mapError_eq_ok_iff.2 (run_filling sized held entry count)

end Run

theorem alikeAt_replicate {x y : Float} (alike : Double.Alike x y) (m n : Nat)
    : Report.AlikeAt (Array.replicate m x) (Array.replicate n y) := by
  intro p member
  obtain ⟨left, right⟩ := List.of_mem_zip (Prod.eta p ▸ member)
  rw [Array.toList_replicate] at left right
  rw [List.eq_of_mem_replicate left, List.eq_of_mem_replicate right]
  exact alike

/-- A baseline that fills with `x`, and lanes that fill with `y`. -/
def fillings (x y : Float) : Registry :=
  (Registry.empty.add (filling .cpu x)).add (filling .simd y)

theorem build_fillings (x y : Float)
    : Registry.build [filling .cpu x, filling .simd y] = .ok (fillings x y) := rfl

section Fillings
variable {d : Descriptor} {t : Trial} (described : t.objective.descriptor = .ok d)
variable (sized : t.Sized) (held : t.overflows = false)
include described sized held

theorem exists_run_of_filling (r : Registry) (zone : Zone) (finish : Option FinishEntry)
    {z : Float} (entry : r.resolveUpdate zone = .ok (fillingEntry z))
    (owns : finish.isSome = zone.supports .finishMetric)
    (found : ∀ f ∈ finish, r.resolveFinish zone = .ok f)
    : ∃ binding, bind r zone d = .ok binding ∧ t.attempt binding = .ok (t.filled z) := by
  have count : d.scoreCount = t.objective.scoreCount := by
    obtain ⟨-, rfl⟩ := Objective.descriptor_eq_ok_iff.1 described
    rfl
  have scored : d.scoreCount ≠ 0 := by
    rw [count]
    exact t.objective.scoreCount_ne_zero
  let binding : Binding := ⟨zone, d.toHandle zone, fillingEntry z, finish⟩
  refine ⟨binding, bind_eq_ok_iff_resolved.2 ?_, attempt_filling sized held rfl count⟩
  exact ⟨scored, rfl, rfl, entry, owns, found⟩

/-- Lanes that fill are compared by what they have filled. -/
theorem report_of_filling {r : Registry} {z : Float} (baseline : Outcome)
    (entry : r.resolveUpdate .simd = .ok (fillingEntry z))
    : t.report r d baseline .simd = .ok (.compare .simd (t.filled z) baseline) := by
  obtain ⟨lanes, bound, ran⟩ :=
    exists_run_of_filling described sized held r .simd none entry rfl nofun
  refine bind_eq_ok_iff.2 ⟨lanes, mapError_eq_ok_iff.2 bound, ?_⟩
  exact bind_eq_ok_iff.2 ⟨t.filled z, ran, rfl⟩

/-- Where the baseline fills, the zones that can work are compared with what it has filled. -/
theorem reports_of_filling {r : Registry} {z : Float} {finish : FinishEntry}
    (entry : r.resolveUpdate .cpu = .ok (fillingEntry z))
    (found : r.resolveFinish .cpu = .ok finish)
    : t.reports r d = r.availableZones.mapM (t.report r d (t.filled z)) := by
  have finishes : ∀ f ∈ some finish, r.resolveFinish .cpu = .ok f := by
    rintro f ⟨⟩
    exact found
  obtain ⟨baseline, bound, ran⟩ :=
    exists_run_of_filling described sized held r .cpu (some finish) entry rfl finishes
  have bound
      : (bind r Zone.baseline d).mapError (fun e => Failure.error (.zone e)) = .ok baseline :=
    mapError_eq_ok_iff.2 bound
  rw [reports, bound]
  change (t.attempt baseline >>= _) = _
  rw [ran]
  rfl

theorem reports_fillings (x y : Float)
    : t.reports (fillings x y) d
      = .ok [
          .compare .cpu (t.filled x) (t.filled x),
          .compare .simd (t.filled y) (t.filled x)
        ] := by
  have available : (fillings x y).availableZones = [.cpu, .simd] := rfl
  have first : t.report (fillings x y) d (t.filled x) .cpu
      = .ok (.compare .cpu (t.filled x) (t.filled x)) := rfl
  have second := report_of_filling described sized held (t.filled x)
    (r := fillings x y) (z := y) rfl
  have finish : (fillings x y).resolveFinish .cpu = .ok fun _ mean => mean := rfl
  rw [reports_of_filling described sized held rfl finish, available]
  simp only [List.mapM_cons, List.mapM_nil, first, second]
  rfl

end Fillings

/-- Lanes that leave no number anywhere pass as consistent beside a baseline of zeros. -/
theorem crossCheck_passes_notNumbers {o : Objective} {d : Descriptor} {samples : Nat} {t : Trial}
    (described : o.descriptor = .ok d) (made : make o samples = .ok t)
    (held : t.overflows = false)
    : ∃ r outcome baseline,
        Registry.build [filling .cpu 0, filling .simd (0 / 0)] = .ok r
        ∧ crossCheck r o samples
          = .ok [.compare .cpu baseline baseline, .compare .simd outcome baseline]
        ∧ (Report.compare .simd outcome baseline).isConsistent = true
        ∧ outcome.scores.size = samples * o.scoreCount.toNat
        ∧ (∀ score ∈ outcome.scores, score.isNaN = true)
        ∧ ∀ score ∈ baseline.scores, score = 0 := by
  obtain ⟨rfl, rfl, sized⟩ := sized_of_make made
  refine ⟨_, t.filled (0 / 0), t.filled 0, build_fillings .., ?_, ?_, ?_, ?_, ?_⟩
  · refine bind_eq_ok_iff.2 ⟨t, made, ?_⟩
    refine bind_eq_ok_iff.2 ⟨d, mapError_eq_ok_iff.2 described, ?_⟩
    exact reports_fillings described sized held ..
  · have alike : Double.Alike (0 / 0) 0 := Or.inr (Or.inl (by decide +kernel))
    refine (Report.isConsistent_compare_iff ..).2 ⟨⟨?_, ?_, ?_⟩, ?_⟩
    · exact alikeAt_replicate alike _ _
    · exact alikeAt_replicate alike _ _
    · exact alikeAt_replicate alike _ _
    · simp only [Report.compare, filled]
      decide +kernel
  · rw [filled, Array.size_replicate, sized.scores]
  · intro score member
    obtain ⟨-, rfl⟩ := Array.mem_replicate.1 member
    decide +kernel
  · intro score member
    exact (Array.mem_replicate.1 member).2

theorem poissonDeviance_passes_notNumbers
    : ∃ r outcome baseline,
        crossCheck r .poissonDeviance 1
          = .ok [.compare .cpu baseline baseline, .compare .simd outcome baseline]
        ∧ (Report.compare .simd outcome baseline).isConsistent = true
        ∧ outcome.scores.size = 1
        ∧ (∀ score ∈ outcome.scores, score.isNaN = true)
        ∧ ∀ score ∈ baseline.scores, score = 0 := by
  obtain ⟨t, made, held⟩ : ∃ t, make .poissonDeviance 1 = .ok t ∧ t.overflows = false :=
    ⟨_, rfl, by decide⟩
  obtain ⟨d, described⟩ : ∃ d, Objective.poissonDeviance.descriptor = .ok d := ⟨_, rfl⟩
  obtain ⟨r, outcome, baseline, -, passed⟩ := crossCheck_passes_notNumbers described made held
  exact ⟨r, outcome, baseline, passed⟩

end Trial
end BoostZones
