import BoostZones.Proofs.Zone.Calls

/-! What the entries of the zones answer and what they leave. The zones differ in the metric at
most; a call fails only for what the caller passed, as long as the device works; and a call that
fails has written nothing, whatever the device does.
-/

namespace BoostZones

/-- The device has its queue, and every area that it is asked for. -/
structure Device.Works (device : Device) : Prop where
  queue : device.hasQueue = true
  areas (used length : Nat) : device.allots used length = true

theorem Device.objection?_of_works {device : Device} (works : device.Works) (job : Kernel.Job)
    : device.objection? job = none := by
  simp only [objection?, works.queue, works.areas, Bool.not_true, Bool.false_eq_true, if_false,
    if_true]
  split <;> rfl

theorem Device.host_works : Device.host.Works :=
  ⟨rfl, fun _ _ => rfl⟩

/-- The handle of regression by squares. -/
def Handle.squares : Handle where
  zone := Zone.baseline.id
  objective := Objective.rmse.code
  link := Objective.rmse.link.code
  linkParameter := 0
  scoreCount := 1
  maximizes := flag false
  constantHessian := flag true
  gradientConstant := 1

/-- Two samples in training, one in each bin of an update. -/
def Transfer.twoSamples : Transfer :=
  { Transfer.empty with
    scoreCount := 1
    perWord := 8
    sampleCount := 2
    update := some #[1, 2]
    updateBins := 2
    words := some #[256]
    targets := some #[3, 5]
    scores := some #[0, 0]
    gradients := some #[0, 0] }

/-- The same buffers with a count of scores that they are too short for. -/
def Transfer.twoShort : Transfer :=
  { twoSamples with scoreCount := 2 }

theorem Transfer.twoSamples_backed : twoSamples.Backed where
  update := by decide
  words := by decide
  targets := by decide
  weights := by decide
  scores := by decide
  gradients := by decide

theorem Transfer.twoSamples_promised : ∀ t ∈ some twoSamples, t.Backed := by
  rintro t ⟨⟩
  exact twoSamples_backed

theorem Transfer.twoSamples_few
    : ∀ t ∈ some twoSamples, 8192 * t.scoreCount.toNat < Text.wordLimit := by
  rintro t ⟨⟩
  decide

namespace Zone

theorem objection?_of_works (zone : Zone) {device : Device} (works : device.Works)
    (job : Kernel.Job)
    : zone.objection? device job = none := by
  cases zone with
  | cpu => rfl
  | simd => rfl
  | offload => exact Device.objection?_of_works works job

/-- With few enough scores for a sample, the lengths of the blocks of a call fit a word. -/
theorem fits_of_accept {h : Handle} {t : Transfer} {job : Kernel.Job}
    (accepted : Kernel.Job.accept h t = .ok job) (few : 8192 * t.scoreCount.toNat < Text.wordLimit)
    : Kernel.Staged.Fits job := by
  obtain ⟨-, viewed, -⟩ := (Kernel.Job.accept_eq_ok_iff h t job).1 accepted
  obtain ⟨-, seen⟩ := (Transfer.view_eq_ok_iff h t job.view).1 viewed
  rw [Kernel.Staged.Fits, ← seen]
  exact few

/-- An accepted call is carried out, up to the metric in the same way by every zone. -/
theorem updateOn_accepted (zone : Zone) {device : Device} (works : device.Works) {h : Handle}
    {t : Transfer} {job : Kernel.Job} (backed : t.Backed)
    (few : 8192 * t.scoreCount.toNat < Text.wordLimit) (accepted : Kernel.Job.accept h t = .ok job)
    : zone.updateOn device (some h) (some t)
      = (0, some {
          t.store (job.scoresAfter job.view.sampleCount)
            (job.gradientsAfter job.view.sampleCount) with
          metric := zone.metricOf job
        }) :=
  updateOn_finished zone device accepted (zone.objection?_of_works works job)
    (zone.traversal_eq (Kernel.Job.ready_of_accept backed accepted) (fits_of_accept accepted few))

/-- Every zone answers with the code of the baseline and leaves the record that the baseline
leaves, with the same scores and the same gradients; only the metric may be another.
-/
theorem updateOn_agrees_with_baseline (zone : Zone) {device : Device} (works : device.Works)
    (handle : Option Handle) {record : Option Transfer} (backed : ∀ t ∈ record, t.Backed)
    (few : ∀ t ∈ record, 8192 * t.scoreCount.toNat < Text.wordLimit)
    : (zone.updateOn device handle record).1 = (Zone.baseline.updateOn device handle record).1
      ∧ ∃ metric,
          (zone.updateOn device handle record).2
          = (Zone.baseline.updateOn device handle record).2.map fun t =>
              { t with metric := metric } := by
  by_cases accepted : ∃ h ∈ handle, ∃ t ∈ record, Kernel.Accepts h t
  · obtain ⟨h, rfl, t, rfl, accepts⟩ := accepted
    obtain ⟨job, accepted⟩ := (Kernel.accepts_iff h t).1 accepts
    have done (zone : Zone) :=
      zone.updateOn_accepted works (backed t rfl) (few t rfl) accepted
    rw [done zone, done Zone.baseline]
    exact ⟨rfl, zone.metricOf job, rfl⟩
  · rw [zone.updateOn_refused device accepted, Zone.baseline.updateOn_refused device accepted]
    refine ⟨rfl, record.elim 0 (·.metric), ?_⟩
    cases record with
    | none => rfl
    | some t => rfl

theorem offload_agrees_on_twoSamples
    : Device.host.Works
      ∧ Transfer.twoSamples.Backed
      ∧ (Zone.offload.updateOn .host (some .squares) (some .twoSamples)).1
        = (Zone.baseline.updateOn .host (some .squares) (some .twoSamples)).1
      ∧ ∃ metric,
          (Zone.offload.updateOn .host (some .squares) (some .twoSamples)).2
          = (Zone.baseline.updateOn .host (some .squares) (some .twoSamples)).2.map fun t =>
              { t with metric := metric } := by
  refine ⟨Device.host_works, Transfer.twoSamples_backed, ?_⟩
  exact updateOn_agrees_with_baseline Zone.offload Device.host_works (some .squares)
    Transfer.twoSamples_promised Transfer.twoSamples_few

/-- A call is carried out or is a bad parameter, never an internal failure. It is carried out
exactly when the three checks accept it, and then the kernel finds every entry that it needs. No
word is shifted by its whole width, and the check of the bins finds a word for each sample once
it has seen that the words are there.
-/
theorem updateOn_code (zone : Zone) {device : Device} (works : device.Works)
    (handle : Option Handle) {record : Option Transfer} (backed : ∀ t ∈ record, t.Backed)
    (few : ∀ t ∈ record, 8192 * t.scoreCount.toNat < Text.wordLimit)
    : ((zone.updateOn device handle record).1 = 0 ∨ (zone.updateOn device handle record).1 = -3)
      ∧ ((zone.updateOn device handle record).1 = 0
          ↔ ∃ h ∈ handle, ∃ t ∈ record, Kernel.Accepts h t)
      ∧ (∀ h ∈ handle, ∀ t ∈ record, (zone.kernelOn device h t).2 ≠ .fault)
      ∧ (∀ t ∈ record, ∀ i, i % t.bins.perWord * bitsPerBin t.bins.perWord < 64)
      ∧ ∀ t ∈ record,
          (0 < t.sampleCount → 0 < t.perWord → t.words ≠ none)
          → (t.bins.maxBin? t.sampleCount.toNat).isSome = true := by
  have carried (accepted : ∃ h ∈ handle, ∃ t ∈ record, Kernel.Accepts h t)
      : (zone.updateOn device handle record).1 = 0 := by
    obtain ⟨h, rfl, t, rfl, accepts⟩ := accepted
    obtain ⟨job, accepted⟩ := (Kernel.accepts_iff h t).1 accepts
    rw [zone.updateOn_accepted works (backed t rfl) (few t rfl) accepted]
  have refused (rejected : ¬ ∃ h ∈ handle, ∃ t ∈ record, Kernel.Accepts h t)
      : (zone.updateOn device handle record).1 = -3 := by
    rw [zone.updateOn_refused device rejected]
  have answers
      : (zone.updateOn device handle record).1 = 0
        ∨ (zone.updateOn device handle record).1 = -3 := by
    by_cases accepted : ∃ h ∈ handle, ∃ t ∈ record, Kernel.Accepts h t
    · exact Or.inl (carried accepted)
    · exact Or.inr (refused accepted)
  refine ⟨answers, ⟨?_, carried⟩, ?_, fun t _ i => shift_lt_word t.bins.perWord i, ?_⟩
  · intro ok
    apply Classical.not_not.1
    intro rejected
    rw [refused rejected] at ok
    exact absurd ok (by decide)
  · rintro h rfl t rfl broken
    have code : (zone.updateOn device (some h) (some t)).1 = -2 := by
      simp only [updateOn, Kernel.guardUpdate, broken]
      rfl
    rw [code] at answers
    exact absurd answers (by decide)
  · intro t held given
    exact PackedBins.isSome_maxBin? (Transfer.bins_covered given (backed t held))

theorem offload_code_of_twoSamples
    : (Zone.offload.updateOn .host (some .squares) (some .twoSamples)).1 = 0 := by
  have answer := updateOn_code Zone.offload Device.host_works (some .squares)
    Transfer.twoSamples_promised Transfer.twoSamples_few
  apply answer.2.1.2
  exact ⟨_, rfl, _, rfl, .rmse, Transfer.twoSamples.toView, rfl, rfl, rfl⟩

/-- A call fails and leaves the record, or it is carried out and writes into the buffers. -/
theorem updateOn_cases (zone : Zone) (device : Device) {handle : Option Handle}
    {record : Option Transfer}
    (promised : ∀ h ∈ handle, ∀ t ∈ record, Kernel.Accepts h t → t.Backed)
    : (∃ code, zone.updateOn device handle record = (code, record) ∧ code ≠ 0)
      ∨ ∃ t ∈ record, ∃ p : Kernel.Progress,
          zone.updateOn device handle record
            = (0, some { t.store p.scores p.gradients with metric := p.metric })
          ∧ (t.isValidation = true → p.gradients = none) := by
  by_cases accepted : ∃ h ∈ handle, ∃ t ∈ record, Kernel.Accepts h t
  · obtain ⟨h, rfl, t, rfl, accepts⟩ := accepted
    have backed := promised h rfl t rfl accepts
    obtain ⟨job, accepted⟩ := (Kernel.accepts_iff h t).1 accepts
    have ready := Kernel.Job.ready_of_accept backed accepted
    rcases unserved : zone.objection? device job with - | reason
    · rcases zone.traversal_cases ready with broken | ⟨p, ended, same⟩
      · exact Or.inl ⟨-2, zone.updateOn_broken device accepted unserved broken, by decide⟩
      · refine Or.inr ⟨t, rfl, p, zone.updateOn_finished device accepted unserved ended, ?_⟩
        intro validation
        obtain ⟨-, viewed, -⟩ := (Kernel.Job.accept_eq_ok_iff h t job).1 accepted
        rw [Transfer.gradients_of_validation viewed validation] at same
        exact Option.not_isSome_iff_eq_none.1 (by simp [same])
    · refine Or.inl ⟨_, zone.updateOn_unserved device accepted unserved, ?_⟩
      intro ok
      rw [← Status.ofCode_eq_ok_iff, Status.ofCode_code] at ok
      exact ZoneError.status_ne_ok reason ok
  · exact Or.inl ⟨-3, zone.updateOn_refused device accepted, by decide⟩

/-- Whatever the device does, a call that fails leaves everything as it was, and a call that is
carried out leaves everything but the scores, the metric and, in training, the gradients; the
buffers keep their lengths. Nothing is asked of the buffers of a call that is refused.
-/
theorem updateOn_frame (zone : Zone) (device : Device) {handle : Option Handle}
    {record : Option Transfer}
    (promised : ∀ h ∈ handle, ∀ t ∈ record, Kernel.Accepts h t → t.Backed)
    : ((zone.updateOn device handle record).1 ≠ 0
        → (zone.updateOn device handle record).2 = record)
      ∧ ((zone.updateOn device handle record).1 = 0
          → ∃ t ∈ record, ∃ scores gradients metric,
              (zone.updateOn device handle record).2
                = some { t with scores := scores, gradients := gradients, metric := metric }
              ∧ scores.map Array.size = t.scores.map Array.size
              ∧ gradients.map Array.size = t.gradients.map Array.size
              ∧ (t.isValidation = true → gradients = t.gradients)) := by
  rcases zone.updateOn_cases device promised with ⟨code, failed, wrong⟩ | done
  · rw [failed]
    exact ⟨fun _ => rfl, fun ok => absurd ok wrong⟩
  · obtain ⟨t, held, p, carried, validation⟩ := done
    rw [carried]
    refine ⟨fun wrong => absurd rfl wrong, fun _ => ?_⟩
    have sizes (xs : Array Float) (buffer : Option (Array Float))
        : (buffer.map (overwrite · 0 xs.toList)).map Array.size = buffer.map Array.size := by
      cases buffer <;> simp
    refine ⟨t, held, _, _, _, rfl, sizes p.scores t.scores, ?_, ?_⟩
    · cases given : p.gradients with
      | none => simp only [Transfer.store]
      | some gradients => simp only [Transfer.store, sizes]
    · intro judged
      simp only [Transfer.store, validation judged]

/-- Without a queue the staged zone leaves the record. With a queue it leaves a record of which it
refuses the counts, however short the buffers are.
-/
theorem offload_frame_of_twoSamples
    : (Zone.offload.updateOn ⟨false, fun _ _ => true⟩ (some .squares) (some .twoSamples)).2
        = some .twoSamples
      ∧ ¬ Transfer.twoShort.Backed
      ∧ (Zone.offload.updateOn .host (some .squares) (some .twoShort)).2 = some .twoShort := by
  have promised
      : ∀ h ∈ some Handle.squares, ∀ t ∈ some Transfer.twoSamples,
          Kernel.Accepts h t → t.Backed :=
    fun _ _ t sent _ => Transfer.twoSamples_promised t sent
  have refused
      : ∀ h ∈ some Handle.squares, ∀ t ∈ some Transfer.twoShort,
          Kernel.Accepts h t → t.Backed := by
    intro h held t sent accepts
    obtain rfl := Option.some.inj held
    obtain rfl := Option.some.inj sent
    exact absurd (Kernel.acceptable_of_accepts accepts).sameScores (by decide)
  have unqueued := updateOn_frame Zone.offload ⟨false, fun _ _ => true⟩ promised
  have short := updateOn_frame Zone.offload .host refused
  refine ⟨unqueued.1 (by decide), fun backed => ?_, short.1 (by decide)⟩
  exact absurd backed.scores (by decide)

end Zone
end BoostZones
