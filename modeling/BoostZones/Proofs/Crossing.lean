import BoostZones.Buffers
import BoostZones.Proofs.Zone.Answers

/-! Buffers on their way to a zone and back. Buffers of the right shape cross as a record that
keeps the caller's promise, and a record that comes back as it went leaves the buffers as they
were; so a call that a zone's own entry refuses changes nothing.
-/

namespace BoostZones

namespace Buffers

/-- Each buffer has the length that the number of scores and the number of targets ask for. -/
structure Fit (b : Buffers) (scoreCount : Nat) : Prop where
  update : b.update.isEmpty = false ∧ b.update.size % scoreCount = 0
  scores : b.scores.size = b.targets.size * scoreCount
  weights : ∀ w ∈ b.weights, w.size = b.targets.size
  gradients
    : ∀ g ∈ b.gradients, g.size = b.targets.size * View.strideOf scoreCount b.hessianNeeded
  packing : ∀ p ∈ b.packed, p.2 ≠ 0 ∧ p.2 ≤ maxPerWord
  words : ∀ p ∈ b.packed, p.1.size = wordCount b.targets.size p.2

/-- Each buffer has the length that is computed from the counts. This is the length that they ask
for, unless a product of counts is cut to a word.
-/
structure Measured (b : Buffers) (scoreCount : Nat) : Prop where
  update : b.update.isEmpty = false ∧ b.update.size % scoreCount = 0
  scores : b.scores.size = wordLength (b.targets.size * scoreCount)
  weights : ∀ w ∈ b.weights, w.size = b.targets.size
  gradients
    : ∀ g ∈ b.gradients,
        g.size = wordLength (b.targets.size * View.strideOf scoreCount b.hessianNeeded)
  packing : ∀ p ∈ b.packed, p.2 ≠ 0 ∧ p.2 ≤ maxPerWord
  words : ∀ p ∈ b.packed, p.1.size = wordCount b.targets.size p.2

section Shape
variable {b : Buffers} {scoreCount : Nat}

theorem lengthObjection?_eq_none_iff {buffer items : String} {length expected : Nat}
    : lengthObjection? buffer length items expected = none ↔ length = expected := by
  simp [lengthObjection?]

theorem packedObjection?_eq_none_iff {samples : Nat} {words : Array UInt64} {perWord : Nat}
    : packedObjection? samples words perWord = none
      ↔ (perWord ≠ 0 ∧ perWord ≤ maxPerWord) ∧ words.size = wordCount samples perWord := by
  unfold packedObjection?
  split
  · next wrong =>
    refine iff_of_false (by simp) ?_
    rintro ⟨⟨packed, narrow⟩, -⟩
    exact wrong.elim packed (Nat.not_lt.2 narrow)
  · next right =>
    obtain ⟨packed, narrow⟩ := not_or.1 right
    rw [lengthObjection?_eq_none_iff]
    exact ⟨fun filled => ⟨⟨packed, Nat.not_lt.1 narrow⟩, filled⟩, fun both => both.2⟩

/-- Nothing is found wrong with the shape of buffers exactly when they have the lengths computed. -/
theorem objection?_eq_none_iff : b.objection? scoreCount = none ↔ b.Measured scoreCount := by
  unfold objection?
  simp only [List.findSome?_eq_none_iff, List.forall_mem_cons, id_eq,
    Transfer.check_eq_none_iff, Option.bind_eq_none_iff, lengthObjection?_eq_none_iff,
    packedObjection?_eq_none_iff]
  constructor
  · rintro ⟨⟨update, -⟩, scores, weights, gradients, packed, -⟩
    obtain ⟨filled, whole⟩ := not_or.1 update
    exact {
      update := ⟨by simpa using filled, Classical.not_not.1 whole⟩
      scores
      weights
      gradients
      packing := fun p held => (packed p held).1
      words := fun p held => (packed p held).2
    }
  · intro measured
    refine ⟨⟨?_, trivial⟩, measured.scores, measured.weights, measured.gradients, ?_, nofun⟩
    · exact not_or.2 ⟨by simp [measured.update.1], Classical.not_not.2 measured.update.2⟩
    · exact fun p held => ⟨measured.packing p held, measured.words p held⟩

end Shape

-------------------------------------------------------------------------------
-- Crossing to the zone
-------------------------------------------------------------------------------

theorem toNat_ofNat_le (n : Nat) : (UInt64.ofNat n).toNat ≤ n := by
  rw [UInt64.toNat_ofNat']
  exact Nat.mod_le _ _

theorem wordLength_of_lt {length : Nat} (fits : length < Text.wordLimit)
    : wordLength length = length :=
  Nat.mod_eq_of_lt fits

/-- A product is cut in the same way when its first factor is a word already. -/
theorem wordLength_mul {samples factor : Nat}
    (fits : (UInt64.ofNat samples).toNat * factor < Text.wordLimit)
    : wordLength (samples * factor) = (UInt64.ofNat samples).toNat * factor := by
  rw [← wordLength_of_lt fits, UInt64.toNat_ofNat']
  exact (Nat.mod_mul_mod samples factor Text.wordLimit).symm

section Crossing
variable {b : Buffers} {scoreCount : UInt64}

theorem scoreCount_toTransfer : (b.toTransfer scoreCount).scoreCount = scoreCount := rfl

theorem isValidation_toTransfer : (b.toTransfer scoreCount).isValidation = b.isValidation :=
  isSet_flag _

theorem wantsHessian_toTransfer
    : (b.toTransfer scoreCount).wantsHessian = (b.hessianNeeded && !b.isValidation) := by
  rw [Transfer.wantsHessian, isValidation_toTransfer, toTransfer, isSet_flag, Bool.and_assoc,
    Bool.and_self]

/-- Buffers that are long enough for the counts of their record cross as a record that keeps the
caller's promise.
-/
theorem backed_toTransfer (weights : ∀ w ∈ b.weights, w.size = b.targets.size)
    (packing : ∀ p ∈ b.packed, p.2 ≠ 0 ∧ p.2 ≤ maxPerWord)
    (words : ∀ p ∈ b.packed, p.1.size = wordCount b.targets.size p.2)
    (scores : (UInt64.ofNat b.targets.size).toNat * scoreCount.toNat ≤ b.scores.size)
    (gradients
      : ∀ g ∈ b.gradients,
          (UInt64.ofNat b.targets.size).toNat * View.strideOf scoreCount.toNat b.hessianNeeded
          ≤ g.size)
    : (b.toTransfer scoreCount).Backed := by
  have samples := toNat_ofNat_le b.targets.size
  constructor
  case update =>
    rintro update ⟨⟩
    have bins := toNat_ofNat_le (b.update.size / scoreCount.toNat)
    exact Nat.le_trans (Nat.mul_le_mul_right _ bins) (Nat.div_mul_le_self _ _)
  case words =>
    intro words' held
    obtain ⟨⟨_, perWord⟩, given, rfl⟩ := Option.map_eq_some_iff.1 (Option.mem_def.1 held)
    have narrow := (packing _ given).2
    have word : (Int32.ofNat perWord).toInt.toNat = perWord := by
      have small : perWord ≤ 64 := narrow
      rw [Int32.toInt_ofNat_of_lt (by omega), Int.toNat_natCast]
    simp only [toTransfer, given, Option.elim_some, word, words _ given]
    exact wordCount_mono samples perWord
  case targets =>
    rintro targets ⟨⟩
    exact samples
  case weights =>
    intro w held
    rw [weights w held]
    exact samples
  case scores =>
    rintro scores' ⟨⟩
    exact scores
  case gradients =>
    intro training g held
    have wanted : (b.toTransfer scoreCount).wantsHessian = b.hessianNeeded := by
      rw [isValidation_toTransfer] at training
      rw [wantsHessian_toTransfer, training, Bool.not_false, Bool.and_true]
    rw [wanted]
    exact gradients g held

/-- Nothing is cut from the length of a buffer in memory. -/
theorem Fit.measured {scoreCount : Nat} (fit : b.Fit scoreCount)
    (scores : b.scores.size < Text.wordLimit)
    (gradients : ∀ g ∈ b.gradients, g.size < Text.wordLimit)
    : b.Measured scoreCount where
  update := fit.update
  scores := by
    rw [fit.scores] at scores ⊢
    exact (wordLength_of_lt scores).symm
  weights := fit.weights
  gradients := by
    intro g held
    have long := gradients g held
    rw [fit.gradients g held] at long ⊢
    exact (wordLength_of_lt long).symm
  packing := fit.packing
  words := fit.words

theorem Fit.backed (fit : b.Fit scoreCount.toNat) : (b.toTransfer scoreCount).Backed := by
  have samples := toNat_ofNat_le b.targets.size
  refine backed_toTransfer fit.weights fit.packing fit.words ?_ ?_
  · rw [fit.scores]
    exact Nat.mul_le_mul_right _ samples
  · intro g held
    rw [fit.gradients g held]
    exact Nat.mul_le_mul_right _ samples

/-- Buffers of the computed lengths are long enough for every record that the kernel accepts, since
it refuses a record whose counts have a product that no word holds.
-/
theorem Measured.backed (measured : b.Measured scoreCount.toNat)
    (products : ∀ p ∈ (b.toTransfer scoreCount).products, p.1 * p.2 < Text.wordLimit)
    : (b.toTransfer scoreCount).Backed := by
  simp only [Transfer.products, List.forall_mem_cons] at products
  obtain ⟨-, scores, gradients, -⟩ := products
  refine backed_toTransfer measured.weights measured.packing measured.words ?_ ?_
  · rw [measured.scores]
    exact Nat.le_of_eq (wordLength_mul scores).symm
  · intro g held
    have training : b.isValidation = false := by simp [isValidation, Option.mem_def.1 held]
    rw [wantsHessian_toTransfer, training, Bool.not_false, Bool.and_true, Nat.mul_assoc]
      at gradients
    rw [measured.gradients g held]
    exact Nat.le_of_eq (wordLength_mul gradients).symm

end Crossing

/-- A record that comes back with the caller's scores and gradients leaves the buffers as they were.
-/
theorem readBack_of_same {b : Buffers} {record : Option Transfer}
    (scores : record.bind (·.scores) = some b.scores)
    (gradients : record.bind (·.gradients) = b.gradients)
    : b.readBack record = b := by
  obtain ⟨update, packed, targets, weights, old, slots, hessianNeeded⟩ := b
  unfold readBack
  rw [scores, gradients]
  cases slots <;> rfl

theorem readBack_toTransfer (b : Buffers) (scoreCount : UInt64)
    : b.readBack (some (b.toTransfer scoreCount)) = b :=
  readBack_of_same rfl rfl

end Buffers

/-- There is no partial success: where the entry answers with an error, the scores and the gradients
of a record are as they were. The buffers of a record have to be long enough for its counts only
where the checks of a kernel let it pass.
-/
def UpdateEntry.AllOrNothing (entry : UpdateEntry) : Prop :=
  ∀ handle, ∀ t : Transfer,
    (∀ h ∈ handle, Kernel.Accepts h t → t.Backed)
    → (entry handle (some t)).1 ≠ 0
    → (entry handle (some t)).2.bind (·.scores) = t.scores
      ∧ (entry handle (some t)).2.bind (·.gradients) = t.gradients

/-- The zones' own entries know no partial success, whatever the device does. -/
theorem Zone.allOrNothing_updateOn (zone : Zone) (device : Device)
    : UpdateEntry.AllOrNothing (zone.updateOn device) := by
  intro handle t promised failed
  have kept : ∀ h ∈ handle, ∀ t' ∈ some t, Kernel.Accepts h t' → t'.Backed := by
    rintro h held _ ⟨⟩
    exact promised h held
  rcases zone.updateOn_cases device kept with ⟨code, answer, -⟩ | ⟨t', held, p, answer, -⟩
  · rw [answer]
    exact ⟨rfl, rfl⟩
  · rw [answer] at failed
    exact absurd rfl failed

/-- A call that is not carried out by an entry without partial success leaves the buffers as they
were.
-/
theorem Binding.applyUpdate_of_allOrNothing {binding : Binding}
    (whole : binding.update.AllOrNothing) {b : Buffers} {reason : ZoneError}
    (failed : (binding.applyUpdate b).2 = .error reason)
    : (binding.applyUpdate b).1 = b := by
  unfold applyUpdate at failed ⊢
  split
  · rfl
  · next free =>
    have measured := Buffers.objection?_eq_none_iff.1 free
    rw [free] at failed
    have refused : (binding.call (some (b.toTransfer binding.handle.scoreCount))).1 ≠ 0 := by
      intro ok
      have accepted := (ZoneError.check_eq_ok_iff _ binding.zone).2 ok
      dsimp only at failed
      rw [accepted] at failed
      cases failed
    have promised (h : Handle) (held : h ∈ some binding.handle)
        (accepts : Kernel.Accepts h (b.toTransfer binding.handle.scoreCount))
        : (b.toTransfer binding.handle.scoreCount).Backed :=
      measured.backed (Kernel.acceptable_of_accepts accepts).products
    obtain ⟨scores, gradients⟩ := whole _ _ promised refused
    exact Buffers.readBack_of_same scores gradients

/-- A call that a zone's own entry does not carry out leaves the buffers as they were. -/
theorem Binding.applyUpdate_of_error {binding : Binding} {zone : Zone} {device : Device}
    (own : binding.update = zone.updateOn device) {b : Buffers} {reason : ZoneError}
    (failed : (binding.applyUpdate b).2 = .error reason)
    : (binding.applyUpdate b).1 = b :=
  applyUpdate_of_allOrNothing (own ▸ zone.allOrNothing_updateOn device) failed

end BoostZones
