import BoostZones.View

/-!
Which records are accepted. A record is accepted exactly when none of the checks has anything
against it; here the checks are told as conditions on the record, without the order in which
they are made and without the texts of the refusals.
-/

namespace BoostZones.Transfer

/-- The conditions on a record under which a kernel of this handle takes it. -/
structure Acceptable (h : Handle) (t : Transfer) : Prop where
  someScore : t.scoreCount ≠ 0
  sameScores : t.scoreCount = h.scoreCount
  packing : 0 ≤ t.perWord ∧ t.perWord ≤ 64
  update : t.update ≠ none
  someBin : t.updateBins ≠ 0
  products : ∀ p ∈ t.products, p.1 * p.2 < Text.wordLimit
  scores : 0 < t.sampleCount → t.scores ≠ none
  targets : 0 < t.sampleCount → t.targets ≠ none
  gradients : 0 < t.sampleCount → t.isValidation = false → t.gradients ≠ none
  words : 0 < t.sampleCount → 0 < t.perWord → t.words ≠ none
  bins : (t.bins.maxBin? t.sampleCount.toNat).getD 0 < t.updateBins.toNat

/-- One check after another: there is no objection when the first has none and the rest
have none. -/
theorem check_eq_none_iff {c : Prop} [Decidable c] {reason : String} {rest : Option String}
    : (if c then some reason else rest) = none ↔ ¬ c ∧ rest = none := by
  by_cases h : c <;> simp [h]

/-- A record is accepted exactly under the conditions, by going through the checks in their
order.
-/
theorem objection?_eq_none_iff (h : Handle) (t : Transfer)
    : t.objection? h = none ↔ t.Acceptable h := by
  unfold objection?
  rw [check_eq_none_iff, check_eq_none_iff, check_eq_none_iff, check_eq_none_iff]
  constructor
  · rintro ⟨someScore, sameScores, range, update, later⟩
    obtain ⟨present, someBin⟩ := not_or.1 update
    split at later
    · cases later
    · next fits =>
      rw [check_eq_none_iff, check_eq_none_iff, check_eq_none_iff, check_eq_none_iff,
        check_eq_none_iff] at later
      obtain ⟨scores, targets, gradients, words, bins, -⟩ := later
      exact {
        someScore
        sameScores := Classical.not_not.1 sameScores
        packing := by rwa [not_or, Int32.not_lt, Int32.not_lt] at range
        update := by simpa using present
        someBin
        products := fun p held => by simpa using List.find?_eq_none.1 fits p held
        scores := by simpa using scores
        targets := by simpa using targets
        gradients := by simpa using gradients
        words := by simpa using words
        bins := Nat.lt_of_not_le bins
      }
  · intro accepted
    refine ⟨accepted.someScore, Classical.not_not.2 accepted.sameScores, ?_, ?_, ?_⟩
    · rw [not_or, Int32.not_lt, Int32.not_lt]
      exact accepted.packing
    · exact not_or.2 ⟨by simpa using accepted.update, accepted.someBin⟩
    · rw [List.find?_eq_none.2 fun p held => by simpa using accepted.products p held]
      dsimp only
      rw [check_eq_none_iff, check_eq_none_iff, check_eq_none_iff, check_eq_none_iff,
        check_eq_none_iff]
      refine ⟨?_, ?_, ?_, ?_, Nat.not_le.2 accepted.bins, rfl⟩
      · simpa using accepted.scores
      · simpa using accepted.targets
      · simpa using accepted.gradients
      · simpa using accepted.words

end BoostZones.Transfer
