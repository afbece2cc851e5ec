import BoostZones.Bins
import BoostZones.Proofs.Sequence.Loops

/-!
Words for all samples. When the words hold a bin for each of the first samples, every one of
these bins can be read, and the greatest of them is what the scan over the samples finds.
-/

namespace BoostZones

section Width
variable {perWord : Nat} (packs : 1 ≤ perWord)
include packs

theorem bitsPerBin_eq : bitsPerBin perWord = 64 / perWord := by
  rw [bitsPerBin, if_neg (Nat.ne_of_gt packs)]

theorem bitsPerBin_pos (narrow : perWord ≤ 64) : 0 < bitsPerBin perWord := by
  rw [bitsPerBin_eq packs]
  exact Nat.div_pos narrow packs

/-- The items of a word leave the topmost bits of it, fewer than the items. -/
theorem mul_bitsPerBin : perWord * bitsPerBin perWord = 64 - 64 % perWord := by
  have whole := Nat.div_add_mod 64 perWord
  rw [bitsPerBin_eq packs]
  omega

end Width

theorem le_wordCount_mul {perWord : Nat} (packed : perWord ≠ 0) (samples : Nat)
    : samples ≤ wordCount samples perWord * perWord := by
  have whole := Nat.div_add_mod (samples + perWord - 1) perWord
  have short := Nat.mod_lt (samples + perWord - 1) (Nat.pos_of_ne_zero packed)
  rw [wordCount, if_neg packed, Nat.mul_comm]
  omega

/-- A word is needed when the first of its bins belongs to a sample. -/
theorem lt_wordCount_iff {perWord : Nat} (packed : perWord ≠ 0) {samples place : Nat}
    : place < wordCount samples perWord ↔ place * perWord < samples := by
  rw [wordCount, if_neg packed, Nat.lt_iff_add_one_le,
    Nat.le_div_iff_mul_le (Nat.pos_of_ne_zero packed), Nat.add_one_mul]
  omega

theorem wordCount_mono {few many : Nat} (le : few ≤ many) (perWord : Nat)
    : wordCount few perWord ≤ wordCount many perWord := by
  unfold wordCount
  split
  · exact Nat.le_refl 0
  · exact Nat.div_le_div_right (by omega)

/-- The shift that brings a bin to the low end of its word stays inside the word. -/
theorem shift_lt_word (perWord i : Nat) : i % perWord * bitsPerBin perWord < 64 := by
  unfold bitsPerBin
  split
  · simp
  · next packed =>
    have place := Nat.mod_lt i (Nat.pos_of_ne_zero packed)
    have whole := Nat.mul_div_le 64 perWord
    rcases Nat.eq_zero_or_pos (64 / perWord) with zero | positive
    · simp [zero]
    · have next : (i % perWord + 1) * (64 / perWord) ≤ perWord * (64 / perWord) :=
        Nat.mul_le_mul_right _ place
      rw [Nat.add_one_mul] at next
      omega

namespace PackedBins

def Covers (b : PackedBins) (samples : Nat) : Prop :=
  b.perWord = 0 ∨ samples ≤ b.words.size * b.perWord

/-- The bin of sample `i`, or zero without a word for it. -/
def binAt (b : PackedBins) (i : Nat) : Nat :=
  (b.bin? i).getD 0

section Covered
variable {b : PackedBins} {samples : Nat}

theorem bin?_eq_binAt (covered : b.Covers samples) {i : Nat} (below : i < samples)
    : b.bin? i = some (b.binAt i) := by
  unfold binAt bin?
  split
  · rfl
  · next packed =>
    have room := covered.resolve_left packed
    have held : i / b.perWord < b.words.size :=
      Nat.div_lt_of_lt_mul (by rw [Nat.mul_comm]; omega)
    rw [Array.getElem?_eq_getElem held]
    rfl

/-- The scan finds the greatest bin of the samples, zero when there is none. -/
theorem maxBin?_eq_max? (covered : b.Covers samples)
    : b.maxBin? samples = (0 :: (List.range samples).map b.binAt).max? := by
  have scan : (List.range samples).foldlM (fun greatest i => (b.bin? i).map (max greatest)) 0
      = some ((List.range samples).foldl (fun greatest i => max greatest (b.binAt i)) 0) :=
    foldlM_eq_pure (fun greatest i member => by
      rw [bin?_eq_binAt covered (List.mem_range.1 member)]
      rfl) 0
  rw [List.max?_cons', List.foldl_map]
  unfold maxBin?
  split
  · next packed =>
    have zero (i : Nat) : b.binAt i = 0 := by
      simp [binAt, bin?, packed]
    have nothing : (List.range samples).foldl (fun greatest i => max greatest (b.binAt i)) 0 = 0 := by
      simp only [zero, Nat.max_zero]
      induction List.range samples with
      | nil => rfl
      | cons i rest ih => exact ih
    rw [nothing]
  · next packed => rw [if_neg (Nat.not_lt.2 (covered.resolve_left packed)), scan]

theorem isSome_maxBin? (covered : b.Covers samples) : (b.maxBin? samples).isSome = true := by
  rw [maxBin?_eq_max? covered, List.max?_cons', Option.isSome_some]

/-- No bin of the samples is greater than what the scan finds. -/
theorem binAt_le_maxBin? (covered : b.Covers samples) {i : Nat} (below : i < samples)
    : b.binAt i ≤ (b.maxBin? samples).getD 0 := by
  have found
      : (0 :: (List.range samples).map b.binAt).max?
        = some (((List.range samples).map b.binAt).foldl max 0) := List.max?_cons'
  rw [maxBin?_eq_max? covered, found, Option.getD_some]
  apply (List.max?_le_iff found).1 (Nat.le_refl _)
  exact List.mem_cons_of_mem _ (List.mem_map.2 ⟨i, List.mem_range.2 below, rfl⟩)

/-- The scan stays below a limit when there is room for the zero it starts from and every bin of
the samples is below. -/
theorem maxBin?_lt_iff (covered : b.Covers samples) {limit : Nat}
    : (b.maxBin? samples).getD 0 < limit ↔ 0 < limit ∧ ∀ i < samples, b.binAt i < limit := by
  constructor
  · intro below
    refine ⟨Nat.lt_of_le_of_lt (Nat.zero_le _) below, fun i inside => ?_⟩
    exact Nat.lt_of_le_of_lt (binAt_le_maxBin? covered inside) below
  · rintro ⟨room, below⟩
    cases limit with
    | zero => exact absurd room (Nat.lt_irrefl 0)
    | succ greatest =>
        rw [maxBin?_eq_max? covered, List.max?_cons', Option.getD_some, Nat.lt_succ_iff]
        refine (List.max?_le_iff List.max?_cons').2 ?_
        simp only [List.forall_mem_cons, List.forall_mem_map, List.mem_range]
        exact ⟨Nat.zero_le _, fun i inside => Nat.le_of_lt_succ (below i inside)⟩

end Covered
end PackedBins
end BoostZones
