import BoostZones.Proofs.Zone.Answers

/-! Which records become views, and what their views hold. First the numbers of a record and the
presence of its buffers are looked at; from then on the caller's promise is relied on and the
words are scanned. What is admitted has its buffers cut to the lengths that its counts say, and
every sample finds a bin in the words and a whole row of the update for it.
-/

namespace BoostZones.Transfer

/-- The bins that the words of a record hold, whether or not they are read. -/
def packedBins (t : Transfer) : PackedBins :=
  ⟨t.words.getD #[], t.perWord.toInt.toNat⟩

/-- What is asked of a record before any of its buffers is read. -/
structure Readable (h : Handle) (t : Transfer) : Prop where
  someScore : 1 ≤ t.scoreCount
  sameScores : t.scoreCount = h.scoreCount
  packing : 0 ≤ t.perWord ∧ t.perWord ≤ 64
  update : t.update ≠ none
  someBin : 1 ≤ t.updateBins
  updateFits : t.updateBins.toNat * t.scoreCount.toNat < Text.wordLimit
  scoresFit : t.sampleCount.toNat * t.scoreCount.toNat < Text.wordLimit
  gradientsFit
    : t.sampleCount.toNat * t.scoreCount.toNat * (if t.wantsHessian then 2 else 1) < Text.wordLimit
  scores : 0 < t.sampleCount → t.scores ≠ none
  targets : 0 < t.sampleCount → t.targets ≠ none
  gradients : 0 < t.sampleCount → t.isValidation = false → t.gradients ≠ none
  words : 0 < t.sampleCount → 0 < t.perWord → t.words ≠ none

/-- A buffer of a view is the beginning of the record's buffer. -/
structure IsFront (given : Option (Array Float)) (length : Nat) (held : Array Float) : Prop where
  size : held.size = length
  entries : held.toList <+: (given.getD #[]).toList

/-- What the view of a record holds. -/
structure Shows (t : Transfer) (v : View) : Prop where
  scoreCount : v.scoreCount = t.scoreCount.toNat
  sampleCount : v.sampleCount = t.sampleCount.toNat
  hessian : v.hessian = t.wantsHessian
  validation : v.validation = t.isValidation
  update : IsFront t.update (t.updateBins.toNat * v.scoreCount) v.update
  scores : IsFront t.scores (v.sampleCount * v.scoreCount) v.scores
  targets : IsFront t.targets v.sampleCount v.targets
  weighted : v.weights.isSome ↔ 0 < v.sampleCount ∧ t.weights ≠ none
  weights : ∀ w ∈ v.weights, IsFront t.weights v.sampleCount w
  training : v.gradients.isSome ↔ t.isValidation = false ∧ 0 < v.sampleCount
  gradients : ∀ g ∈ v.gradients, IsFront t.gradients (v.sampleCount * v.stride) g
  stride : 0 < v.sampleCount → v.stride < Text.wordLimit
  bins
    : ∀ i < v.sampleCount,
        ∃ bin < t.updateBins.toNat,
          t.packedBins.bin? i = some bin
          ∧ v.bins.bin? i = some bin
          ∧ v.updateOfBin? bin = some (rowAt v.update.toList v.scoreCount bin)
          ∧ (rowAt v.update.toList v.scoreCount bin).length = v.scoreCount

-------------------------------------------------------------------------------
-- The checks in two parts
-------------------------------------------------------------------------------

theorem products_fit_iff (t : Transfer)
    : (∀ p ∈ t.products, p.1 * p.2 < Text.wordLimit)
      ↔ t.updateBins.toNat * t.scoreCount.toNat < Text.wordLimit
        ∧ t.sampleCount.toNat * t.scoreCount.toNat < Text.wordLimit
        ∧ t.sampleCount.toNat * t.scoreCount.toNat * (if t.wantsHessian then 2 else 1)
          < Text.wordLimit := by
  simp only [products, List.forall_mem_cons, List.not_mem_nil, false_implies, implies_true,
    and_true]

/-- A record is accepted when it is readable and no sample has a bin that the update has not. -/
theorem acceptable_iff_readable (h : Handle) (t : Transfer)
    : t.Acceptable h
      ↔ t.Readable h ∧ (t.bins.maxBin? t.sampleCount.toNat).getD 0 < t.updateBins.toNat := by
  have positive (n : UInt64) : n ≠ 0 ↔ 1 ≤ n := by grind
  constructor
  · intro accepted
    obtain ⟨updateFits, scoresFit, gradientsFit⟩ := (products_fit_iff t).1 accepted.products
    refine ⟨?_, accepted.bins⟩
    exact {
      someScore := (positive _).1 accepted.someScore
      sameScores := accepted.sameScores
      packing := accepted.packing
      update := accepted.update
      someBin := (positive _).1 accepted.someBin
      updateFits
      scoresFit
      gradientsFit
      scores := accepted.scores
      targets := accepted.targets
      gradients := accepted.gradients
      words := accepted.words
    }
  · intro admitted
    obtain ⟨readable, bins⟩ := admitted
    exact {
      someScore := (positive _).2 readable.someScore
      sameScores := readable.sameScores
      packing := readable.packing
      update := readable.update
      someBin := (positive _).2 readable.someBin
      products := (products_fit_iff t).2
        ⟨readable.updateFits, readable.scoresFit, readable.gradientsFit⟩
      scores := readable.scores
      targets := readable.targets
      gradients := readable.gradients
      words := readable.words
      bins
    }

-------------------------------------------------------------------------------
-- The words
-------------------------------------------------------------------------------

/-- The words that are cut off hold no bin of a sample. -/
theorem bin?_bins (t : Transfer) {i : Nat} (below : i < t.sampleCount.toNat)
    : t.bins.bin? i = t.packedBins.bin? i := by
  unfold bins packedBins
  dsimp only
  by_cases packed : t.perWord.toInt.toNat = 0
  · rw [if_pos (Or.inl packed), PackedBins.bin?_none, PackedBins.bin?, if_pos packed]
  · have positive : 0 < t.perWord.toInt.toNat := Nat.pos_of_ne_zero packed
    have needed
        : i / t.perWord.toInt.toNat < wordCount t.sampleCount.toNat t.perWord.toInt.toNat := by
      rw [lt_wordCount_iff packed]
      exact Nat.lt_of_le_of_lt (Nat.div_mul_le_self i _) below
    rw [if_neg (not_or.2 ⟨packed, by omega⟩)]
    simp only [PackedBins.bin?, if_neg packed, Array.getElem?_extract, Nat.zero_add, Nat.sub_zero]
    by_cases held : i / t.perWord.toInt.toNat < (t.words.getD #[]).size
    · rw [if_pos (by omega)]
    · rw [Array.getElem?_eq_none (Nat.le_of_not_lt held)]
      split <;> rfl

section Promised
variable {h : Handle} {t : Transfer} (readable : t.Readable h) (backed : t.Backed)
include readable backed

/-- The scan over the words of a readable record comes to an end. -/
theorem exists_maxBin : ∃ greatest, t.bins.maxBin? t.sampleCount.toNat = some greatest :=
  Option.isSome_iff_exists.1 (PackedBins.isSome_maxBin? (bins_covered readable.words backed))

/-- The scan finds nothing wrong when every sample has a bin that the update has. -/
theorem maxBin_lt_iff
    : (t.bins.maxBin? t.sampleCount.toNat).getD 0 < t.updateBins.toNat
      ↔ ∀ i < t.sampleCount.toNat, ∃ bin ∈ t.packedBins.bin? i, bin < t.updateBins.toNat := by
  have covered := bins_covered readable.words backed
  have someBin : 0 < t.updateBins.toNat := UInt64.le_iff_toNat_le.1 readable.someBin
  rw [PackedBins.maxBin?_lt_iff covered, and_iff_right someBin]
  refine forall_congr' fun i => forall_congr' fun below => ?_
  rw [← bin?_bins t below, PackedBins.bin?_eq_binAt covered below]
  simp only [Option.mem_some_iff, exists_eq_left']

end Promised

-------------------------------------------------------------------------------
-- What is admitted
-------------------------------------------------------------------------------

theorem prefix_cut (buffer : Option (Array Float)) (length : Nat)
    : (cut buffer length).toList <+: (buffer.getD #[]).toList := by
  rw [cut, Array.toList_extract, List.extract_eq_take_drop, List.drop_zero]
  exact List.take_prefix _ _

/-- The view of an accepted record shows it: the lengths are those of an accepted view, and the
entries are cut off the record's own.
-/
theorem Acceptable.shows {h : Handle} {t : Transfer} (accepted : t.Acceptable h)
    (backed : t.Backed)
    : t.Shows t.toView := by
  have shaped := accepted.shaped backed
  have readable := ((acceptable_iff_readable h t).1 accepted).1
  constructor
  case scoreCount => rfl
  case sampleCount => rfl
  case hessian => rfl
  case validation => rfl
  case update => exact ⟨shaped.update, prefix_cut t.update _⟩
  case scores => exact ⟨shaped.scores, prefix_cut t.scores _⟩
  case targets => exact ⟨shaped.targets, prefix_cut t.targets _⟩
  case weighted =>
    by_cases filled : 0 < t.sampleCount.toNat
    · simp [toView, filled, Option.isSome_iff_ne_none]
    · simp [toView, filled]
  case weights =>
    intro w member
    refine ⟨shaped.weights w member, ?_⟩
    simp only [toView] at member
    split at member
    · obtain ⟨given, held, rfl⟩ := Option.map_eq_some_iff.1 (Option.mem_def.1 member)
      have front := prefix_cut t.weights t.sampleCount.toNat
      rw [held] at front ⊢
      exact front
    · cases member
  case training =>
    by_cases filled : 0 < t.sampleCount.toNat
    · cases judged : t.isValidation <;> simp [toView, filled, judged]
    · simp [toView, filled]
  case gradients =>
    intro g member
    refine ⟨shaped.gradients g member, ?_⟩
    simp only [toView] at member
    split at member
    · cases member
      exact prefix_cut t.gradients _
    · cases member
  case stride =>
    intro filled
    have fits := readable.gradientsFit
    rw [Nat.mul_assoc] at fits
    exact Nat.lt_of_le_of_lt (Nat.le_mul_of_pos_left _ filled) fits
  case bins =>
    intro i below
    have covered := bins_covered accepted.words backed
    have inside := shaped.bins i below
    have found : t.toView.bins.bin? i = some (t.bins.binAt i) :=
      PackedBins.bin?_eq_binAt covered below
    refine ⟨t.bins.binAt i, inside, ?_, found, ?_, ?_⟩
    · rw [← bin?_bins t below]
      exact found
    · exact shaped.updateOfBin? inside
    · exact shaped.length_update inside

/-- A record becomes a view exactly when its numbers and its buffers are in order and every sample
has a bin of the update. The view shows the record, and what is refused is a bad parameter. The
caller's promise counts only where the checks before it have passed, and then the scan of the
words ends.
-/
theorem view_ok_iff_readable (h : Handle) (t : Transfer) (backed : t.Readable h → t.Backed)
    : ((∃ v, t.view h = .ok v)
        ↔ t.Readable h
          ∧ ∀ i < t.sampleCount.toNat, ∃ bin ∈ t.packedBins.bin? i, bin < t.updateBins.toNat)
      ∧ (∀ v, t.view h = .ok v → t.Shows v)
      ∧ (∀ e, t.view h = .error e → ∃ reason, e = .invalidParameter reason)
      ∧ (t.Readable h → ∃ greatest, t.bins.maxBin? t.sampleCount.toNat = some greatest) := by
  have accepts (v : View) : t.view h = .ok v ↔ t.Acceptable h ∧ t.toView = v := by
    rw [view_eq_ok_iff, objection?_eq_none_iff]
  refine ⟨?_, ?_, ?_, ?_⟩
  · simp only [accepts, exists_and_left, exists_eq', and_true]
    rw [acceptable_iff_readable]
    exact and_congr_right fun readable => maxBin_lt_iff readable (backed readable)
  · intro v viewed
    obtain ⟨accepted, rfl⟩ := (accepts v).1 viewed
    exact accepted.shows (backed ((acceptable_iff_readable h t).1 accepted).1)
  · intro e refused
    unfold view at refused
    split at refused
    · next reason _ =>
      cases refused
      exact ⟨reason, rfl⟩
    · cases refused
  · exact fun readable => exists_maxBin readable (backed readable)

theorem twoSamples_readable : twoSamples.Readable .squares where
  someScore := by decide
  sameScores := rfl
  packing := by decide
  update := nofun
  someBin := by decide
  updateFits := by decide
  scoresFit := by decide
  gradientsFit := by decide
  scores := nofun
  targets := nofun
  gradients := nofun
  words := nofun

theorem twoSamples_is_shown
    : twoSamples.Readable .squares
      ∧ twoSamples.Backed
      ∧ ∃ v, twoSamples.view .squares = .ok v ∧ twoSamples.Shows v := by
  obtain ⟨admitted, shown, -⟩ := view_ok_iff_readable .squares twoSamples fun _ => twoSamples_backed
  obtain ⟨v, viewed⟩ := admitted.2 ⟨twoSamples_readable, by decide⟩
  exact ⟨twoSamples_readable, twoSamples_backed, v, viewed, shown v viewed⟩

end BoostZones.Transfer
