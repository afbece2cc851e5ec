import BoostZones.Proofs.Transfer.Samples
import BoostZones.Proofs.Zone.Answers

/-! The round that an accepted call carries out, told on the record alone: what each entry of the
scores and of the gradients is afterwards, and what the metric is a sum of.
-/

namespace BoostZones

open Kernel

namespace Transfer

/-- The record after a job on it, with the metric that a zone comes to. -/
def afterJob (t : Transfer) (job : Job) (metric : Float) : Transfer :=
  { t.store (job.scoresAfter job.view.sampleCount) (job.gradientsAfter job.view.sampleCount) with
    metric := metric }

section Accepted
variable {h : Handle} {t : Transfer} {job : Job}
variable (backed : t.Backed) (accepted : Job.accept h t = .ok job)
include accepted

theorem acceptable_of_accept : t.Acceptable h := by
  obtain ⟨-, viewed, -⟩ := (Job.accept_eq_ok_iff h t job).1 accepted
  exact (objection?_eq_none_iff h t).1 ((view_eq_ok_iff h t job.view).1 viewed).1

theorem view_of_accept : job.view = t.toView := by
  obtain ⟨-, viewed, -⟩ := (Job.accept_eq_ok_iff h t job).1 accepted
  exact ((view_eq_ok_iff h t job.view).1 viewed).2.symm

theorem sampleCount_of_accept : job.view.sampleCount = t.sampleCount.toNat := by
  rw [view_of_accept accepted, toView]

theorem scoreCount_of_accept : job.view.scoreCount = t.scoreCount.toNat := by
  rw [view_of_accept accepted, toView]

theorem stride_of_accept : job.view.stride = t.stride := by
  rw [view_of_accept accepted]
  rfl

theorem some_sample {i : Nat} (below : i < job.view.sampleCount) : 0 < t.sampleCount := by
  rw [sampleCount_of_accept accepted] at below
  exact UInt64.lt_iff_toNat_lt.2 (Nat.lt_of_le_of_lt (Nat.zero_le i) below)

theorem exists_gradients {i : Nat} (below : i < job.view.sampleCount)
    (training : t.isValidation = false)
    : ∃ gradients, job.view.gradients = some gradients := by
  have positive := UInt64.lt_iff_toNat_lt.1 (some_sample accepted below)
  have filled : decide (0 < t.sampleCount.toNat) = true := decide_eq_true positive
  rw [view_of_accept accepted]
  simp only [toView, training, filled, Bool.not_false, Bool.and_self, if_true]
  exact ⟨_, rfl⟩

include backed

/-- The scores of a sample are its new ones. -/
theorem scoresOf?_afterJob (metric : Float) {i : Nat} (below : i < job.view.sampleCount)
    : (t.afterJob job metric).scoresOf? i = some (job.newRow i) := by
  have ready := Job.ready_of_accept backed accepted
  have acceptable := acceptable_of_accept accepted
  obtain ⟨scores, held⟩ :=
    Option.ne_none_iff_exists'.1 (acceptable.scores (some_sample accepted below))
  have room := backed.scores scores held
  have count := scoreCount_of_accept accepted
  have samples := sampleCount_of_accept accepted
  rw [← count, ← samples] at room
  have read := window?_overwrite_rows (fun _ inside => ready.length_newRow inside) room below
  simp only [afterJob, scoresOf?, store, held, Option.map_some, Option.bind_some,
    Job.scoresAfter, refill_all ready.shaped.scores]
  rw [← count]
  exact read

/-- The slot of a sample holds its new gradients. -/
theorem slot_afterJob (metric : Float) {i : Nat} (below : i < job.view.sampleCount)
    (training : t.isValidation = false)
    : (t.afterJob job metric).gradients.bind (window? · (i * t.stride) t.stride)
      = some (job.newSlot i) := by
  have ready := Job.ready_of_accept backed accepted
  have acceptable := acceptable_of_accept accepted
  obtain ⟨gradients, held⟩ :=
    Option.ne_none_iff_exists'.1 (acceptable.gradients (some_sample accepted below) training)
  obtain ⟨inner, given⟩ := exists_gradients accepted below training
  have stride := stride_of_accept accepted
  have samples := sampleCount_of_accept accepted
  have room : job.view.sampleCount * job.view.stride ≤ gradients.size := by
    rw [samples, stride]
    exact backed.gradients training gradients held
  have read := window?_overwrite_rows (fun _ inside => ready.length_newSlot inside) room below
  simp only [afterJob, store, Job.gradientsAfter, given, held, Option.map_some, Option.bind_some,
    refill_all (ready.shaped.gradients inner given)]
  rw [← stride]
  exact read

theorem term?_afterJob (metric : Float) {i : Nat} (below : i < job.view.sampleCount)
    : (t.afterJob job metric).term? job.objective i = some (job.newTerm i) := by
  have ready := Job.ready_of_accept backed accepted
  have seen := view_of_accept accepted
  have inside : i < t.sampleCount.toNat := by rwa [seen] at below
  have term := ready.term?_eq below
  rw [Job.term?, seen, targets_toView t inside, weight?_toView t inside] at term
  rw [term?, scoresOf?_afterJob backed accepted metric below]
  exact term

/-- A new score is the old one plus the entry of the update for the sample's bin. -/
theorem newRow_entry {i k : Nat} (below : i < job.view.sampleCount)
    (inside : k < t.scoreCount.toNat)
    : ∃ bin old delta,
        t.bins.bin? i = some bin
        ∧ itemAt? t.scores (i * t.scoreCount.toNat + k) = some old
        ∧ itemAt? t.update (bin * t.scoreCount.toNat + k) = some delta
        ∧ (job.newRow i)[k]? = some (old + delta) := by
  have ready := Job.ready_of_accept backed accepted
  have seen := view_of_accept accepted
  have count := scoreCount_of_accept accepted
  have place {row rows : Nat} (inner : row < rows)
      : row * t.scoreCount.toNat + k < rows * t.scoreCount.toNat := by
    have last : (row + 1) * t.scoreCount.toNat ≤ rows * t.scoreCount.toNat :=
      Nat.mul_le_mul_right _ inner
    rw [Nat.add_one_mul] at last
    omega
  rw [← count] at inside ⊢
  obtain ⟨old, held⟩ : ∃ old, (job.oldRow i)[k]? = some old :=
    ⟨_, List.getElem?_eq_getElem (by rwa [ready.length_oldRow below])⟩
  obtain ⟨delta, added⟩ : ∃ delta, (job.added i)[k]? = some delta :=
    ⟨_, List.getElem?_eq_getElem (by rwa [ready.length_added below])⟩
  refine ⟨job.view.bins.binAt i, old, delta, ?_, ?_, ?_, ?_⟩
  · have binned := PackedBins.bin?_eq_binAt ready.shaped.covered below
    rwa [seen] at binned ⊢
  · rw [← held, Job.oldRow, getElem?_rowAt _ inside, Array.getElem?_toList]
    rw [seen] at below ⊢
    exact (getElem?_cut t.scores (place below)).symm
  · have bin := ready.shaped.bins i below
    rw [← added, Job.added, getElem?_rowAt _ inside, Array.getElem?_toList]
    rw [seen] at bin ⊢
    exact (getElem?_cut t.update (place bin)).symm
  · rw [Job.newRow, addDelta, List.getElem?_zipWith, held, added]

theorem exists_target {i : Nat} (below : i < job.view.sampleCount)
    : ∃ target,
        itemAt? t.targets i = some target
        ∧ job.objective.targetFault? target = none
        ∧ job.newSlot i
          = (job.newRow i).zipIdx.flatMap fun entry =>
              job.objective.scoreEntries h.gradientConstant t.wantsHessian (job.newRow i)
                (Objective.greatest (job.newRow i)) target entry.2 entry.1 := by
  have ready := Job.ready_of_accept backed accepted
  obtain ⟨-, -, -, constant⟩ := (Job.accept_eq_ok_iff h t job).1 accepted
  have seen := view_of_accept accepted
  obtain ⟨target, held, domain⟩ := ready.exists_target below
  have full : (job.newRow i).length = job.objective.scoreCount.toNat := by
    rw [ready.length_newRow below, ready.scoreCount]
  have slot := (ready.gradients?_eq below).1
  rw [Job.gradients?, held, Option.bind_some, Objective.scaleBy_gradientTerms? full domain,
    constant] at slot
  have hessian : job.view.hessian = t.wantsHessian := by rw [seen]; rfl
  rw [seen] at below held
  refine ⟨target, (targets_toView t below).symm.trans held, domain, ?_⟩
  rw [← Option.some.inj slot, hessian]

/-- The entries for a score are where the stride puts them, by cutting the slot of its sample. -/
theorem entries_afterJob (metric : Float) {i k : Nat} (below : i < job.view.sampleCount)
    (training : t.isValidation = false) {top target score : Float}
    (slot
      : job.newSlot i
        = (job.newRow i).zipIdx.flatMap fun entry =>
            job.objective.scoreEntries h.gradientConstant t.wantsHessian (job.newRow i) top target
              entry.2 entry.1)
    (held : (job.newRow i)[k]? = some score)
    : (t.afterJob job metric).gradients.bind
          (window? · (i * t.stride + k * (t.stride / t.scoreCount.toNat))
            (t.stride / t.scoreCount.toNat))
      = some (job.objective.scoreEntries h.gradientConstant t.wantsHessian (job.newRow i) top
          target k score) := by
  have ready := Job.ready_of_accept backed accepted
  have count := scoreCount_of_accept accepted
  have inside := (List.getElem?_eq_some_iff.1 held).1
  rw [ready.length_newRow below, count] at inside
  have width : t.stride / t.scoreCount.toNat = if t.wantsHessian then 2 else 1 := by
    rw [stride, View.strideOf, Nat.mul_div_cancel_left _ (by omega)]
  have fits : (k + 1) * (if t.wantsHessian then 2 else 1) ≤ t.stride :=
    Nat.mul_le_mul_right _ inside
  obtain ⟨gradients, given, read⟩ :=
    Option.bind_eq_some_iff.1 (slot_afterJob backed accepted metric below training)
  have numbered : (job.newRow i).zipIdx[k]? = some (score, k) := by simp [held]
  rw [given, Option.bind_some, width, window?_of_window? read fits, slot, rowAt_flatMap _ numbered]
  exact fun entry _ => Objective.length_scoreEntries ..

/-- The term of a sample is its weight times the metric that the formula tells. -/
theorem exists_term (metric : Float) {i : Nat} (below : i < job.view.sampleCount)
    : ∃ scores target weight own,
        (t.afterJob job metric).scoresOf? i = some scores
        ∧ itemAt? t.targets i = some target
        ∧ t.weightOf? i = some weight
        ∧ job.objective.HasMetric scores target own
        ∧ (t.afterJob job metric).term? job.objective i = some (weight * own) := by
  have ready := Job.ready_of_accept backed accepted
  have seen := view_of_accept accepted
  have read := scoresOf?_afterJob backed accepted metric below
  obtain ⟨target, held, domain, -⟩ := exists_target backed accepted below
  obtain ⟨weight, weighed⟩ := ready.shaped.exists_weight below
  have full : (job.newRow i).length = job.objective.scoreCount.toNat := by
    rw [ready.length_newRow below, ready.scoreCount]
  obtain ⟨own, judged⟩ := Objective.exists_sampleMetric full domain
  have formula := Objective.hasMetric_of_domain full domain judged
  rw [seen] at below weighed
  rw [weight?_toView t below] at weighed
  refine ⟨_, target, weight, own, read, held, weighed, formula, ?_⟩
  have kept : itemAt? (t.afterJob job metric).targets i = some target := held
  have same : (t.afterJob job metric).weightOf? i = some weight := weighed
  rw [term?, read, kept, same]
  simp only [Bind.bind, Option.bind_some, judged, pure]

end Accepted

/-- What a round leaves in a record: new scores and, in training, for every score its entries at
the place that the stride gives it; the metric is zero in training, and in validation it is the
sum of the samples' terms from the first sample on.
-/
structure Round (o : Objective) (constant : Float) (t done : Transfer) : Prop where
  scores
    : ∀ i < t.sampleCount.toNat,
        ∀ k < t.scoreCount.toNat,
          ∃ bin old delta,
            t.bins.bin? i = some bin
            ∧ itemAt? t.scores (i * t.scoreCount.toNat + k) = some old
            ∧ itemAt? t.update (bin * t.scoreCount.toNat + k) = some delta
            ∧ itemAt? done.scores (i * t.scoreCount.toNat + k) = some (old + delta)
  gradients
    : t.isValidation = false
      → ∀ i < t.sampleCount.toNat,
          ∃ scores top target,
            done.scoresOf? i = some scores
            ∧ Objective.Greatest scores top
            ∧ itemAt? t.targets i = some target
            ∧ ∀ k < t.scoreCount.toNat,
                ∃ score,
                  scores[k]? = some score
                  ∧ done.gradients.bind
                      (window? · (i * t.stride + k * (t.stride / t.scoreCount.toNat))
                        (t.stride / t.scoreCount.toNat))
                    = some (o.scoreEntries constant t.wantsHessian scores top target k score)
  terms
    : ∀ i < t.sampleCount.toNat,
        ∃ scores target weight metric,
          done.scoresOf? i = some scores
          ∧ itemAt? t.targets i = some target
          ∧ t.weightOf? i = some weight
          ∧ o.HasMetric scores target metric
          ∧ done.term? o i = some (weight * metric)
  trainingMetric : t.isValidation = false → done.metric = 0
  validationMetric
    : t.isValidation = true
      → ∃ terms,
          (List.range t.sampleCount.toNat).mapM (done.term? o) = some terms
          ∧ done.metric = terms.foldl (· + ·) 0

theorem round_afterJob {h : Handle} {t : Transfer} {job : Job} (backed : t.Backed)
    (accepted : Job.accept h t = .ok job)
    : Round job.objective h.gradientConstant t
        (t.afterJob job (Scalar.metricAfter job job.view.sampleCount)) := by
  have ready := Job.ready_of_accept backed accepted
  have samples := sampleCount_of_accept accepted
  generalize result : Scalar.metricAfter job job.view.sampleCount = metric
  constructor
  case scores =>
    intro i below k inside
    rw [← samples] at below
    obtain ⟨bin, old, delta, binned, held, added, new⟩ :=
      newRow_entry backed accepted below inside
    obtain ⟨scores, given, read⟩ :=
      Option.bind_eq_some_iff.1 (scoresOf?_afterJob backed accepted metric below)
    have entry := getElem?_of_window? read inside
    refine ⟨bin, old, delta, binned, held, added, ?_⟩
    rw [itemAt?, given, Option.bind_some]
    exact entry.trans new
  case gradients =>
    intro training i below
    rw [← samples] at below
    obtain ⟨target, held, -, slot⟩ := exists_target backed accepted below
    refine ⟨_, _, target, scoresOf?_afterJob backed accepted metric below,
      Objective.greatest_spec _, held, ?_⟩
    intro k inside
    obtain ⟨bin, old, delta, -, -, -, new⟩ := newRow_entry backed accepted below inside
    exact ⟨_, new, entries_afterJob backed accepted metric below training slot new⟩
  case terms =>
    intro i below
    rw [← samples] at below
    exact exists_term backed accepted metric below
  case trainingMetric =>
    intro training
    change metric = 0
    rw [← result, Scalar.metricAfter]
    split
    · rfl
    · next absent =>
      have unsampled : ¬ 0 < job.view.sampleCount := by
        intro below
        obtain ⟨gradients, given⟩ := exists_gradients accepted below training
        rw [given] at absent
        exact absent rfl
      rw [Nat.eq_zero_of_not_pos unsampled]
      rfl
  case validationMetric =>
    intro validation
    obtain ⟨-, viewed, -⟩ := (Job.accept_eq_ok_iff h t job).1 accepted
    have gradientless := gradients_of_validation viewed validation
    refine ⟨(List.range t.sampleCount.toNat).map job.newTerm, mapM_eq_some ?_, ?_⟩
    · intro i member
      rw [← samples] at member
      exact term?_afterJob backed accepted metric (List.mem_range.1 member)
    · rw [List.foldl_map, ← samples]
      change metric = _
      rw [← result]
      simp only [Scalar.metricAfter, gradientless, Option.isSome_none, Bool.false_eq_true, if_false]

-------------------------------------------------------------------------------
-- Other weights and other old gradients
-------------------------------------------------------------------------------

/-- The record with other weights, and with other entries where its gradients will go. -/
def withOther (t : Transfer) (weights gradients : Option (Array Float)) : Transfer :=
  { t with weights := weights, gradients := gradients }

section Other
variable {h : Handle} {t : Transfer} {job : Job} {weights gradients : Option (Array Float)}

variable (weights) in
/-- The record with other weights is accepted as the same job but for what is other. -/
theorem accept_withOther (accepted : Job.accept h t = .ok job)
    (present : 0 < t.sampleCount → gradients ≠ none)
    : Job.accept h (t.withOther weights gradients)
      = .ok { job with view := (t.withOther weights gradients).toView } := by
  obtain ⟨known, -, valid, constant⟩ := (Job.accept_eq_ok_iff h t job).1 accepted
  have acceptable := acceptable_of_accept accepted
  have seen := view_of_accept accepted
  have free : (t.withOther weights gradients).Acceptable h :=
    { acceptable with gradients := fun sampled _ => present sampled }
  rw [seen] at valid
  exact (Job.accept_eq_ok_iff h _ _).2
    ⟨known, (view_eq_ok_iff h _ _).2 ⟨(objection?_eq_none_iff h _).2 free, rfl⟩, valid, constant⟩

/-- Neither weights nor old gradients influence what a training call writes. -/
theorem afterJob_withOther (backed : t.Backed) (accepted : Job.accept h t = .ok job)
    (present : 0 < t.sampleCount → gradients ≠ none)
    (other : (t.withOther weights gradients).Backed) (training : t.isValidation = false)
    (metric metric' : Float)
    : ((t.withOther weights gradients).afterJob
          { job with view := (t.withOther weights gradients).toView } metric').scores
        = (t.afterJob job metric).scores
      ∧ ∀ place < t.sampleCount.toNat * t.stride,
          itemAt?
              ((t.withOther weights gradients).afterJob
                { job with view := (t.withOther weights gradients).toView } metric').gradients
              place
            = itemAt? (t.afterJob job metric).gradients place := by
  have accepted' := accept_withOther weights accepted present
  have seen := view_of_accept accepted
  obtain ⟨objective, constant, view⟩ := job
  dsimp only at seen
  subst seen
  refine ⟨rfl, ?_⟩
  intro place inside
  have positive : 0 < t.stride :=
    Nat.pos_of_mul_pos_left (Nat.lt_of_le_of_lt (Nat.zero_le place) inside)
  have below : place / t.stride < t.sampleCount.toNat :=
    Nat.div_lt_of_lt_mul (by rwa [Nat.mul_comm])
  have split := Nat.div_add_mod' place t.stride
  have rest := Nat.mod_lt place positive
  obtain ⟨new, given, read⟩ :=
    Option.bind_eq_some_iff.1 (slot_afterJob backed accepted metric below training)
  obtain ⟨new', given', read'⟩ :=
    Option.bind_eq_some_iff.1 (slot_afterJob other accepted' metric' below training)
  rw [← split, given, given', itemAt?, itemAt?, Option.bind_some, Option.bind_some,
    getElem?_of_window? read rest]
  exact getElem?_of_window? read' rest

end Other
end Transfer

theorem Zone.baseline_updateOn (device : Device) {h : Handle} {t : Transfer} {job : Job}
    (backed : t.Backed) (accepted : Job.accept h t = .ok job)
    : Zone.baseline.updateOn device (some h) (some t)
      = (0, some (t.afterJob job (Scalar.metricAfter job job.view.sampleCount))) := by
  have ended : Zone.baseline.traversal job
      = .ok (job.outcome (Scalar.metricAfter job job.view.sampleCount)) := by
    rw [Zone.baseline, Zone.traversal, Scalar.traverse_eq (Job.ready_of_accept backed accepted)]
  exact Zone.baseline.updateOn_finished device accepted rfl ended

/-- The baseline carries out every call that it accepts, and leaves the documented round. In
training neither the weights nor the old gradients influence what is left.
-/
theorem Zone.baseline_carries_out_round (device : Device) {h : Handle} {t : Transfer}
    (backed : t.Backed) (accepts : Kernel.Accepts h t)
    : ∃ o done,
        Objective.ofHandle h = .ok o
        ∧ Zone.baseline.updateOn device (some h) (some t) = (0, some done)
        ∧ t.Round o h.gradientConstant done
        ∧ ∀ weights gradients,
            t.isValidation = false
            → (t.withOther weights gradients).Backed
            → (0 < t.sampleCount → gradients ≠ none)
            → ∃ done',
                Zone.baseline.updateOn device (some h) (some (t.withOther weights gradients))
                  = (0, some done')
                ∧ done'.scores = done.scores
                ∧ done'.metric = done.metric
                ∧ ∀ place < t.sampleCount.toNat * t.stride,
                    Transfer.itemAt? done'.gradients place
                    = Transfer.itemAt? done.gradients place := by
  obtain ⟨job, accepted⟩ := (Kernel.accepts_iff h t).1 accepts
  have known := ((Job.accept_eq_ok_iff h t job).1 accepted).1
  have round := Transfer.round_afterJob backed accepted
  refine ⟨job.objective, _, known, baseline_updateOn device backed accepted, round, ?_⟩
  intro weights gradients training other present
  have accepted' := Transfer.accept_withOther weights accepted present
  have round' := Transfer.round_afterJob other accepted'
  obtain ⟨scores, entries⟩ :=
    Transfer.afterJob_withOther backed accepted present other training
      (Scalar.metricAfter job job.view.sampleCount)
      (Scalar.metricAfter { job with view := (t.withOther weights gradients).toView }
        t.sampleCount.toNat)
  refine ⟨_, baseline_updateOn device other accepted', scores, ?_, entries⟩
  rw [round.trainingMetric training]
  exact round'.trainingMetric training

/-- The handle of a classification into three classes. -/
def Handle.threeClasses : Handle where
  zone := Zone.baseline.id
  objective := (Objective.logLoss 3).code
  link := (Objective.logLoss 3).link.code
  linkParameter := 0
  scoreCount := 3
  maximizes := flag false
  constantHessian := flag false
  gradientConstant := 1

/-- One sample of the last of three classes in training with hessians, and no feature. -/
def Transfer.threeClasses : Transfer :=
  { Transfer.empty with
    scoreCount := 3
    hessianNeeded := flag true
    sampleCount := 1
    update := some #[1, 2, 3]
    updateBins := 1
    targets := some #[2]
    scores := some #[0, 0, 0]
    gradients := some #[0, 0, 0, 0, 0, 0] }

theorem Transfer.threeClasses_backed : threeClasses.Backed where
  update := by decide
  words := by decide
  targets := by decide
  weights := by decide
  scores := by decide
  gradients := by decide

theorem Transfer.threeClasses_accepts : Kernel.Accepts .threeClasses .threeClasses := by
  refine ⟨.logLoss 3, threeClasses.toView, rfl, rfl, (Objective.checkTargets_eq_ok_iff _ _).2 ?_⟩
  decide +kernel

theorem Zone.baseline_round_of_samples
    : (Transfer.twoSamples.Backed
        ∧ Kernel.Accepts .squares .twoSamples
        ∧ ∃ o done,
            Objective.ofHandle .squares = .ok o
            ∧ Zone.baseline.updateOn .host (some .squares) (some .twoSamples) = (0, some done)
            ∧ Transfer.twoSamples.Round o Handle.squares.gradientConstant done)
      ∧ Transfer.threeClasses.Backed
      ∧ Kernel.Accepts .threeClasses .threeClasses
      ∧ ∃ o done,
          Objective.ofHandle .threeClasses = .ok o
          ∧ Zone.baseline.updateOn .host (some .threeClasses) (some .threeClasses)
            = (0, some done)
          ∧ Transfer.threeClasses.Round o Handle.threeClasses.gradientConstant done := by
  have accepts : Kernel.Accepts .squares .twoSamples :=
    ⟨.rmse, Transfer.twoSamples.toView, rfl, rfl, rfl⟩
  obtain ⟨o, done, known, ended, round, -⟩ :=
    baseline_carries_out_round .host Transfer.twoSamples_backed accepts
  refine ⟨⟨Transfer.twoSamples_backed, accepts, o, done, known, ended, round⟩, ?_⟩
  obtain ⟨o, done, known, ended, round, -⟩ :=
    baseline_carries_out_round .host Transfer.threeClasses_backed Transfer.threeClasses_accepts
  exact ⟨Transfer.threeClasses_backed, Transfer.threeClasses_accepts, o, done, known, ended,
    round⟩

end BoostZones
