import BoostZones.Proofs.Bins.Bits
import BoostZones.Proofs.Objective.Samples
import BoostZones.Proofs.Session.Errors
import BoostZones.Trial.Report

/-! What comes of making a trial. The targets are chosen before the objective is looked at, so an
objective that cannot be used is reported only if there is a target for every sample. With one
class there is; with no class there is not, and the check breaks off at the first sample. It also
breaks off where no memory can hold what is made, in the order in which it is made.
-/

namespace BoostZones.Trial

/-- No memory can hold the trial: the update and the samples are made before the targets are looked
at, and the scores are made after the targets are accepted.
-/
inductive TooLong (o : Objective) (samples : Nat) : Prop
  | update (long : entryLimit ≤ binCount * o.scoreCount.toNat)
  | samples (long : entryLimit ≤ samples)
  | scores {targets : List Float} (chosen : (List.range samples).mapM (target? o) = some targets)
    (accepted : o.checkTargets targets = .ok ())
    (long : entryLimit ≤ samples * o.scoreCount.toNat)

/-- There are samples, and no class to choose their targets from. -/
def Classless (o : Objective) (samples : Nat) : Prop :=
  o = .logLoss 0 ∧ 0 < samples

section Made
variable {r : Registry} {o : Objective} {samples : Nat}

theorem target?_eq_none_iff {i : Nat} : target? o i = none ↔ o = .logLoss 0 := by
  cases o with
  | rmse => exact iff_of_false nofun nofun
  | poissonDeviance => exact iff_of_false nofun nofun
  | logLoss classes => simp [target?]

theorem targets_eq_none_iff
    : (List.range samples).mapM (target? o) = none ↔ Classless o samples := by
  simp only [mapM_eq_none_iff, target?_eq_none_iff, List.mem_range, Classless]
  constructor
  · intro missing
    obtain ⟨i, below, empty⟩ := missing
    exact ⟨empty, Nat.zero_lt_of_lt below⟩
  · intro missing
    obtain ⟨empty, sampled⟩ := missing
    exact ⟨0, sampled, empty⟩

theorem exists_packed (samples : Nat)
    : ∃ words,
        packBins ((List.range samples).map fun i => (i * 31 + 7) % binCount) perWord
          = .ok words := by
  refine exists_packBins_iff.mpr ⟨by decide, ?_⟩
  intro bin member
  obtain ⟨i, -, rfl⟩ := List.mem_map.mp member
  exact Nat.mod_lt _ (by decide)

/-- Once there are targets, what can be wrong with a trial is what the objective has against them,
and then that no memory can hold the scores.
-/
theorem make_of_targets (update : binCount * o.scoreCount.toNat < entryLimit)
    (few : samples < entryLimit) {targets : List Float}
    (chosen : (List.range samples).mapM (target? o) = some targets)
    : (∀ reason,
        o.checkTargets targets = .error reason
        → make o samples = .error (.error (.objective reason)))
      ∧ (o.checkTargets targets = .ok ()
        → entryLimit ≤ samples * o.scoreCount.toNat
        → make o samples = .error .fault)
      ∧ (o.checkTargets targets = .ok ()
        → samples * o.scoreCount.toNat < entryLimit
        → ∃ t, make o samples = .ok t) := by
  obtain ⟨words, packed⟩ := exists_packed samples
  have holds : ¬(entryLimit ≤ binCount * o.scoreCount.toNat ∨ entryLimit ≤ samples) :=
    not_or.mpr ⟨Nat.not_le.mpr update, Nat.not_le.mpr few⟩
  refine ⟨?_, ?_, ?_⟩
  · intro reason refused
    simp only [make, if_neg holds, packed, chosen, refused]
    rfl
  · intro accepted long
    simp only [make, if_neg holds, packed, chosen, accepted, if_pos long]
    rfl
  · intro accepted short
    simp only [make, if_neg holds, packed, chosen, accepted, if_neg (Nat.not_le.mpr short)]
    exact ⟨_, rfl⟩

theorem make_eq_fault_iff
    : make o samples = .error .fault ↔ Classless o samples ∨ TooLong o samples := by
  obtain ⟨words, packed⟩ := exists_packed samples
  by_cases long : entryLimit ≤ binCount * o.scoreCount.toNat ∨ entryLimit ≤ samples
  · refine iff_of_true ?_ (Or.inr (long.elim .update .samples))
    simp only [make, if_pos long]
    rfl
  obtain ⟨update, few⟩ := not_or.mp long
  cases chosen : (List.range samples).mapM (target? o) with
  | none =>
      refine iff_of_true ?_ (Or.inl (targets_eq_none_iff.mp chosen))
      simp only [make, if_neg long, packed, chosen]
      rfl
  | some targets =>
      have classes : ¬Classless o samples := by
        rw [← targets_eq_none_iff, chosen]
        exact Option.some_ne_none targets
      obtain ⟨refuses, breaks, accepts⟩ :=
        make_of_targets (Nat.not_le.mp update) (Nat.not_le.mp few) chosen
      rw [or_iff_right classes]
      constructor
      · intro broken
        cases checked : o.checkTargets targets with
        | error reason => cases (refuses reason checked).symm.trans broken
        | ok _ =>
            refine .scores chosen checked (Nat.not_lt.mp fun short => ?_)
            obtain ⟨t, made⟩ := accepts checked short
            cases made.symm.trans broken
      · intro tooLong
        cases tooLong with
        | update long => exact absurd long update
        | samples long => exact absurd long few
        | scores chosen' accepted long =>
            cases chosen.symm.trans chosen'
            exact breaks accepted long

end Made

/-- The buffers of a trial have the lengths that its objective asks for. -/
structure Sized (t : Trial) : Prop where
  update : t.update.size = binCount * t.objective.scoreCount.toNat
  packed : t.packed.size = wordCount t.samples perWord
  targets : t.targets.size = t.samples
  weights : t.weights.size = t.samples
  scores : t.scores.size = t.samples * t.objective.scoreCount.toNat

theorem size_tabulate (count : Nat) (entry : Float → Float)
    : (tabulate count entry).size = count := by
  simp [tabulate]

theorem sized_of_make {o : Objective} {samples : Nat} {t : Trial} (made : make o samples = .ok t)
    : t.objective = o ∧ t.samples = samples ∧ t.Sized := by
  unfold make at made
  dsimp only at made
  split at made
  · cases made
  obtain ⟨words, packed, made⟩ := bind_eq_ok_iff.1 made
  rw [mapError_eq_ok_iff] at packed
  have size := size_of_packBins packed
  rw [List.length_map, List.length_range] at size
  split at made
  · cases made
  · next targets chosen =>
    obtain ⟨-, -, made⟩ := bind_eq_ok_iff.1 made
    split at made
    · cases made
    cases made
    have count := length_of_mapM_eq_some chosen
    rw [List.length_range] at count
    refine ⟨rfl, rfl, ?_⟩
    exact {
      update := size_tabulate ..
      packed := size
      targets := by rw [List.size_toArray, count]
      weights := by rw [List.size_toArray, List.length_map, List.length_range]
      scores := size_tabulate ..
    }

-------------------------------------------------------------------------------
-- Checking the zones with a trial
-------------------------------------------------------------------------------

/-- What is reported is not what breaks off. -/
theorem mapError_ne_fault {ε α : Type} {result : Except ε α} {tell : ε → RunError}
    : (result.mapError fun e => Failure.error (tell e)) ≠ .error .fault := by
  intro broken
  obtain ⟨reason, -, other⟩ := mapError_eq_error_iff.mp broken
  cases other

section Run
variable {r : Registry} {t : Trial} {d : Descriptor}

/-- A run breaks off before anything is sent to the zone, or not at all. -/
theorem attempt_eq_fault_iff {binding : Binding}
    : t.attempt binding = .error .fault ↔ t.overflows = true := by
  cases overflows : t.overflows with
  | true => exact iff_of_true (by rw [attempt, overflows]; rfl) rfl
  | false =>
      refine iff_of_false ?_ Bool.false_ne_true
      rw [attempt, overflows]
      exact mapError_ne_fault

theorem overflows_of_report {baseline : Outcome} {zone : Zone}
    (broken : t.report r d baseline zone = .error .fault)
    : t.overflows = true := by
  unfold report at broken
  split at broken
  · cases broken
  rcases bind_eq_error_iff.mp broken with unbound | ⟨binding, -, later⟩
  · exact absurd unbound mapError_ne_fault
  rcases bind_eq_error_iff.mp later with broken | ⟨_, -, ended⟩
  · exact attempt_eq_fault_iff.mp broken
  · cases ended

/-- The reports break off in the run of the baseline, or not at all, since all zones are given
buffers of the same lengths.
-/
theorem reports_eq_fault_iff
    : t.reports r d = .error .fault
      ↔ t.overflows = true ∧ ∃ binding, bind r Zone.baseline d = .ok binding := by
  constructor
  · intro broken
    rcases bind_eq_error_iff.mp broken with unbound | ⟨binding, bound, later⟩
    · exact absurd unbound mapError_ne_fault
    refine ⟨?_, binding, mapError_eq_ok_iff.mp bound⟩
    rcases bind_eq_error_iff.mp later with broken | ⟨baseline, -, later⟩
    · exact attempt_eq_fault_iff.mp broken
    · obtain ⟨zone, -, broken⟩ := exists_of_mapM_eq_error later
      exact overflows_of_report broken
  · intro parts
    obtain ⟨overflows, binding, bound⟩ := parts
    refine bind_eq_error_iff.mpr (Or.inr ⟨binding, mapError_eq_ok_iff.mpr bound, ?_⟩)
    exact bind_eq_error_iff.mpr (Or.inl (attempt_eq_fault_iff.mpr overflows))

end Run

/-- Once the trial is made and the baseline is bound, the check breaks off where no memory can hold
the gradients.
-/
theorem crossCheck_eq_fault_iff {r : Registry} {o : Objective} {samples : Nat}
    : crossCheck r o samples = .error .fault
      ↔ make o samples = .error .fault
        ∨ ∃ t d binding,
            make o samples = .ok t
            ∧ o.descriptor = .ok d
            ∧ bind r Zone.baseline d = .ok binding
            ∧ entryLimit ≤ samples * o.scoreCount.toNat * 2 := by
  have overflows_iff {t : Trial} (made : make o samples = .ok t)
      : t.overflows = true ↔ entryLimit ≤ samples * o.scoreCount.toNat * 2 := by
    obtain ⟨rfl, rfl, -⟩ := sized_of_make made
    exact decide_eq_true_iff
  constructor
  · intro broken
    rcases bind_eq_error_iff.mp broken with broken | ⟨t, made, later⟩
    · exact Or.inl broken
    rcases bind_eq_error_iff.mp later with undescribed | ⟨d, described, broken⟩
    · exact absurd undescribed mapError_ne_fault
    obtain ⟨overflows, binding, bound⟩ := reports_eq_fault_iff.mp broken
    exact Or.inr ⟨t, d, binding, made, mapError_eq_ok_iff.mp described, bound,
      (overflows_iff made).mp overflows⟩
  · rintro (broken | ⟨t, d, binding, made, described, bound, long⟩)
    · exact bind_eq_error_iff.mpr (Or.inl broken)
    refine bind_eq_error_iff.mpr (Or.inr ⟨t, made, ?_⟩)
    refine bind_eq_error_iff.mpr (Or.inr ⟨d, mapError_eq_ok_iff.mpr described, ?_⟩)
    exact reports_eq_fault_iff.mpr ⟨(overflows_iff made).mpr long, binding, bound⟩

-------------------------------------------------------------------------------
-- Objectives that cannot be used
-------------------------------------------------------------------------------

section Unusable
variable {r : Registry} {o : Objective} {samples : Nat} {reason : ObjectiveError}

/-- The only class is the target of every sample. -/
theorem make_oneClass (few : samples < entryLimit)
    : ∃ t, make (.logLoss 1) samples = .ok t := by
  have chosen
      : (List.range samples).mapM (target? (.logLoss 1))
        = some ((List.range samples).map fun _ => (0 : UInt64).toFloat) := by
    refine mapM_eq_some ?_
    intro i _
    rw [target?, UInt64.mod_one]
    rfl
  obtain ⟨-, -, accepts⟩ := make_of_targets (by decide) few chosen
  refine accepts ((Objective.checkTargets_eq_ok_iff _ _).mpr ?_) ?_
  · intro target member
    obtain ⟨i, -, rfl⟩ := List.mem_map.mp member
    decide +kernel
  · have one : (Objective.logLoss 1).scoreCount.toNat = 1 := rfl
    rwa [one, Nat.mul_one]

theorem make_of_invalid (invalid : o.validate = .error reason) (few : samples < entryLimit)
    (classes : ¬Classless o samples)
    : ∃ t, make o samples = .ok t := by
  obtain ⟨count, below, rfl, -⟩ := Objective.validate_eq_error_iff.mp invalid
  have known : count = 0 ∨ count = 1 := by
    have below := UInt64.lt_iff_toNat_lt.mp below
    rcases Nat.le_one_iff_eq_zero_or_eq_one.mp (Nat.le_of_lt_succ below) with zero | one
    · exact Or.inl (UInt64.toNat_inj.mp zero)
    · exact Or.inr (UInt64.toNat_inj.mp one)
  rcases known with rfl | rfl
  · have empty : samples = 0 := Nat.eq_zero_of_not_pos fun sampled => classes ⟨rfl, sampled⟩
    subst empty
    exact ⟨_, rfl⟩
  · exact make_oneClass few

theorem crossCheck_eq_error_iff_of_invalid (invalid : o.validate = .error reason)
    (few : samples < entryLimit)
    : crossCheck r o samples = .error (.error (.objective reason)) ↔ ¬Classless o samples := by
  constructor
  · intro told classless
    have broken := make_eq_fault_iff.mpr (Or.inl classless)
    cases (crossCheck_eq_fault_iff.mpr (Or.inl broken)).symm.trans told
  · intro classes
    obtain ⟨t, made⟩ := make_of_invalid invalid few classes
    refine bind_eq_error_iff.mpr (Or.inr ⟨t, made, ?_⟩)
    refine bind_eq_error_iff.mpr (Or.inl (mapError_eq_error_iff.mpr ⟨reason, ?_, rfl⟩))
    exact Objective.descriptor_eq_error_iff.mpr invalid

/-- The bins of the samples are numbered with words only if a memory can hold them. -/
theorem samples_lt_of_products (products : ∀ i < samples, i * 31 + 7 < Text.wordLimit)
    : samples < entryLimit := by
  cases samples with
  | zero => decide
  | succ last =>
      have product := products last (Nat.lt_succ_self last)
      simp only [Text.wordLimit, entryLimit, Nat.pow_eq] at product ⊢
      omega

end Unusable

/-- Making a trial breaks off exactly when there is a sample and the objective has no class, or no
memory can hold the trial; checking the zones with it breaks off there and where a memory can hold
the trial and not its gradients, once the baseline is bound. An objective that cannot be used is
reported in all other cases, whatever is registered; so with one class it is, and with none it is
only if there is no sample.
-/
theorem crossCheck_reports_unusable_objective_iff (r : Registry) (o : Objective) (samples : Nat)
    : (make o samples = .error .fault ↔ Classless o samples ∨ TooLong o samples)
      ∧ (crossCheck r o samples = .error .fault
        ↔ (Classless o samples ∨ TooLong o samples)
          ∨ ∃ t d binding,
              make o samples = .ok t
              ∧ o.descriptor = .ok d
              ∧ bind r Zone.baseline d = .ok binding
              ∧ entryLimit ≤ samples * o.scoreCount.toNat * 2)
      ∧ ∀ reason,
          o.validate = .error reason
          → (∀ i < samples, i * 31 + 7 < Text.wordLimit)
          → (crossCheck r o samples = .error (.error (.objective reason))
            ↔ ¬Classless o samples) := by
  refine ⟨make_eq_fault_iff, ?_, ?_⟩
  · rw [crossCheck_eq_fault_iff, make_eq_fault_iff]
  · intro reason invalid products
    exact crossCheck_eq_error_iff_of_invalid invalid (samples_lt_of_products products)

/-- Without a class the check breaks off at one sample, and reports the objective at none. -/
theorem noClass_breaks_off_at_first_sample
    : make (.logLoss 0) 1 = .error .fault
      ∧ crossCheck Registry.empty (.logLoss 0) 1 = .error .fault
      ∧ ∃ reason,
          (Objective.logLoss 0).validate = .error reason
          ∧ crossCheck Registry.empty (.logLoss 0) 0 = .error (.error (.objective reason)) := by
  have classless : Classless (.logLoss 0) 1 := ⟨rfl, Nat.one_pos⟩
  obtain ⟨made, broken, -⟩ :=
    crossCheck_reports_unusable_objective_iff Registry.empty (.logLoss 0) 1
  obtain ⟨-, -, told⟩ := crossCheck_reports_unusable_objective_iff Registry.empty (.logLoss 0) 0
  refine ⟨made.mpr (Or.inl classless), broken.mpr (Or.inl (Or.inl classless)), _, rfl, ?_⟩
  exact (told _ rfl nofun).mpr fun empty => Nat.lt_irrefl 0 empty.2

end BoostZones.Trial
